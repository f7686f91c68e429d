/-
# YHarness.Context.Scans -- what the two backward scans over whole Turns find

The scan for a summarizer (`WindowScan.run`) and the scan for the Model
(`ContextEngine.select`) walk the model-visible Turns of a Thread backwards.  Each is an
instance of the generic walk: it decides by the encoded list of what it holds
(`WindowScan.decides`) or by the sums over it (`ContextEngine.decides`), and each equation
for an offer says at which Turn it can fail.
-/
import YHarness.Lib.BackScan
import YHarness.Context.Conversation
import YHarness.State.Admitted

namespace YHarness.Context

open YHarness.Lib YHarness.Kernel
open YHarness.Runtime (modelVisibleItem)
open YHarness.State (itemPayload shapeFails ItemAdmitted ItemsAdmitted maxStateEventBytes
  encodedLen_sublist)

set_option autoImplicit false

/-! ## Visible Turns -/

/-- The Turns with model-visible Items. -/
def visibleTurns (turns : List Turn) : List Turn :=
  turns.filter fun turn => hasModelVisibleItems turn.items

theorem visibleTurns_cons (turn : Turn) (turns : List Turn) :
    visibleTurns (turn :: turns) =
      if hasModelVisibleItems turn.items then turn :: visibleTurns turns else visibleTurns turns :=
  List.filter_cons

theorem visibleTurns_reverse (turns : List Turn) :
    visibleTurns turns.reverse = (visibleTurns turns).reverse :=
  List.filter_reverse

theorem modelVisibleItem_isSome (item : Item) :
    (modelVisibleItem item).isSome = isModelVisible item := by
  obtain ⟨id, createdAtMs, kind⟩ := item
  cases kind <;> rfl

theorem visible_iff (items : List Item) :
    (modelVisibleItems items).isEmpty = !hasModelVisibleItems items := by
  induction items with
  | nil => rfl
  | cons item items ih =>
    rw [hasModelVisibleItems, List.any_cons, ← modelVisibleItem_isSome]
    rw [modelVisibleItems, List.filterMap_cons]
    cases modelVisibleItem item with
    | none => simpa [modelVisibleItems, hasModelVisibleItems] using ih
    | some visible => rfl

/-- The form in which an Item is shown to a Model is no longer than the Item. -/
theorem modelVisibleItem_len {item visible : Item} (shown : modelVisibleItem item = some visible) :
    visible.toJson.encodedLen ≤ item.toJson.encodedLen := by
  obtain ⟨id, createdAtMs, kind⟩ := item
  have fewer : ∀ kind' : ItemKind, kind'.fields.Sublist kind.fields →
      (Item.toJson ⟨id, createdAtMs, kind'⟩).encodedLen ≤
        (Item.toJson ⟨id, createdAtMs, kind⟩).encodedLen :=
    fun kind' sub => encodedLen_sublist ((List.Sublist.refl _).append sub)
  cases kind with
  | userMessage | providerContinuation | toolCall =>
    cases shown
    exact le_rfl
  | steeringApplied steeringId content =>
    cases shown
    have tag : stringLen "user_message" ≤ stringLen "steering_applied" := by decide
    simp only [Item.toJson, ItemKind.fields, List.cons_append, List.nil_append, Json.encodedLen,
      fieldsLen, List.length_cons, List.length_nil]
    omega
  | toolResult callId output isError connectorEvidence =>
    cases shown
    refine fewer _ ?_
    simp only [ItemKind.fields, List.isEmpty_nil, if_true, List.append_nil]
    exact List.sublist_append_left _ _
  | assistantMessage modelId modelOrigin modelRequestSha256 content =>
    cases shown
    refine fewer _ (List.Sublist.append ?_ (List.Sublist.refl _))
    simp only [skipNone, List.append_nil]
    exact List.sublist_append_left _ _
  | verificationResult verifier candidateItemId verifierOrigin verifierBindingSha256 outcome =>
    cases shown
    refine fewer _ (List.Sublist.append ?_ (List.Sublist.refl _))
    simp only [skipNone, List.append_nil, List.append_assoc]
    exact List.sublist_append_left _ _
  | _ => cases shown

/-- An Item of a conversation that passes the checks of the scans. -/
structure Presentable (item : Item) : Prop where
  json : validateConversationItemJson item = .ok ()
  size : item.toJson.encodedLen ≤ maxConversationBudgetBytes

theorem presentable_of_admitted [Sha256] {item visible : Item} (admitted : ItemAdmitted item)
    (shown : modelVisibleItem item = some visible) : Presentable visible where
  size := (modelVisibleItem_len shown).trans admitted.size
  json := by
    have valid := admitted.valid
    have shaped := admitted.shaped
    obtain ⟨id, createdAtMs, kind⟩ := item
    cases kind with
    | toolCall modelId modelOrigin callId name input batch =>
      cases shown
      simpa [validateConversationItemJson, validateContinuation, itemPayload] using shaped
    | toolResult callId output isError connectorEvidence =>
      cases shown
      simpa [validateConversationItemJson, validateContinuation, itemPayload] using shaped
    | providerContinuation modelId modelOrigin continuation =>
      cases shown
      simp only [State.validateStateItem, seq_eq_ok, mapError_eq_ok] at valid
      simp [validateConversationItemJson, validateContinuation, itemPayload, seq_eq_ok,
        mapError_eq_ok, valid.2.2]
    | userMessage | steeringApplied | assistantMessage | verificationResult =>
      cases shown
      rfl
    | _ => cases shown

/-- The Turns whose visible Items all are presentable. -/
def Presented (turns : List Turn) : Prop :=
  ∀ turn ∈ turns, ∀ item ∈ modelVisibleItems turn.items, Presentable item

theorem presented_of_admitted [Sha256] {turns : List Turn} (admitted : ItemsAdmitted turns) :
    Presented turns := by
  intro turn member visible shown
  obtain ⟨item, among, shows⟩ := List.mem_filterMap.1 shown
  exact presentable_of_admitted (admitted turn member item among) shows

/-! ## The scan for a summarizer -/

def compactionTurn (turn : Turn) : ConversationCompactionTurn :=
  ⟨turn.id, modelVisibleItems turn.items⟩

/-- The window that holds these Turns. -/
def windowOf (turns : List Turn) : CompactionWindow :=
  ⟨(compactionTurnsJson (turns.map compactionTurn)).encodedLen, turns.map compactionTurn⟩

theorem windowOf_cons (turn : Turn) (kept : List Turn) :
    (windowOf (turn :: kept)).encodedBytes = (windowOf kept).encodedBytes +
      (if kept.isEmpty then 0 else 1) + (compactionTurn turn).toJson.encodedLen := by
  cases kept with
  | nil => simp [windowOf, compactionTurnsJson, Json.encodedLen, valuesLen]
  | cons next kept =>
    simp only [windowOf, compactionTurnsJson, List.map_cons, Json.encodedLen, valuesLen,
      List.length_cons, List.isEmpty_cons, if_neg Bool.false_ne_true]
    omega

/-- The Turns a summarizer may be given: at most so many, within so many encoded bytes. -/
structure WindowScan.Supplies (scan : WindowScan) (turns : List Turn) : Prop where
  count : turns.length ≤ scan.maxInputTurns
  bytes : turns ≠ [] → (compactionTurnsJson (turns.map compactionTurn)).encodedLen ≤
    scan.inputBudgetBytes

section WindowScan

variable {scan : WindowScan}

theorem WindowScan.Supplies.light {turns : List Turn} (supplied : scan.Supplies turns)
    (bounded : scan.inputBudgetBytes ≤ maxCompactionInputBytes) :
    (windowOf turns).encodedBytes ≤ maxCompactionInputBytes := by
  by_cases empty : turns = []
  · rw [empty]
    decide
  · exact (supplied.bytes empty).trans bounded

/-- The offer of a Turn to a window within the compaction limit. -/
theorem WindowScan.offer_eq {turn : Turn} {kept : List Turn}
    (presented : ∀ item ∈ modelVisibleItems turn.items, Presentable item)
    (light : (windowOf kept).encodedBytes ≤ maxCompactionInputBytes) :
    scan.offer turn (windowOf kept) =
      if scan.maxInputTurns ≤ kept.length then .ok none
      else if maxCompactionInputBytes < (compactionTurn turn).toJson.encodedLen then
        .error (scan.turnError .limitExceeded)
      else if scan.inputBudgetBytes < (windowOf (turn :: kept)).encodedBytes then
        (if kept.isEmpty then .error scan.newestTooLarge else .ok none)
      else .ok (some (windowOf (turn :: kept))) := by
  have checked : validateConversationItemsJson (modelVisibleItems turn.items) = .ok () :=
    checkAll_eq_ok.2 fun item member => (presented item member).json
  have sum := windowOf_cons turn kept
  have count : (windowOf kept).turns.length = kept.length := List.length_map _
  have empty : (windowOf kept).turns.isEmpty = kept.isEmpty := by
    cases kept <;> rfl
  have candidate : (⟨turn.id, modelVisibleItems turn.items⟩ : ConversationCompactionTurn) =
    compactionTurn turn := rfl
  rw [WindowScan.offer, count, empty]
  by_cases full : scan.maxInputTurns ≤ kept.length
  · rw [if_pos full, if_pos full]
  · rw [if_neg full, if_neg full]
    dsimp only
    rw [checked, ok_bind, boundedSerializedSize, candidate]
    by_cases fits : (compactionTurn turn).toJson.encodedLen ≤ maxCompactionInputBytes
    · have next : (checkedAdd (windowOf kept).encodedBytes (if kept.isEmpty then 0 else 1)).bind
          (checkedAdd · (compactionTurn turn).toJson.encodedLen) =
          some (windowOf (turn :: kept)).encodedBytes := by
        have separator : (if kept.isEmpty then 0 else 1) ≤ 1 := by split <;> omega
        simp only [maxCompactionInputBytes] at fits light
        rw [sum, checkedAdd, if_pos (by simp only [usizeMax]; omega), Option.bind_some, checkedAdd,
          if_pos (by simp only [usizeMax]; omega)]
      rw [if_pos fits, if_neg (Nat.not_lt.2 fits)]
      show (orError _ ((checkedAdd (windowOf kept).encodedBytes (if kept.isEmpty then 0 else 1)).bind
        (checkedAdd · (compactionTurn turn).toJson.encodedLen)) >>= _) = _
      rw [next]
      rfl
    · rw [if_neg fits, if_pos (Nat.lt_of_not_le fits)]
      rfl

/-- The scan decides by the encoded list of what it holds. -/
theorem WindowScan.decides {turns : List Turn} (presented : Presented turns)
    (bounded : scan.inputBudgetBytes ≤ maxCompactionInputBytes) :
    Decides scan.offer windowOf scan.Supplies turns where
  empty := ⟨Nat.zero_le _, fun filled => absurd rfl filled⟩
  closed := by
    intro turn kept more
    have count := more.count
    have sum := windowOf_cons turn kept
    rw [List.length_cons] at count
    refine ⟨by omega, fun _ => ?_⟩
    have bytes : (windowOf (turn :: kept)).encodedBytes ≤ scan.inputBudgetBytes :=
      more.bytes (List.cons_ne_nil _ _)
    show (windowOf kept).encodedBytes ≤ scan.inputBudgetBytes
    omega
  takes := by
    intro turn kept within more
    have member : turn ∈ turns := within.mem List.mem_cons_self
    have count := more.count
    have sum := windowOf_cons turn kept
    have bytes : (windowOf (turn :: kept)).encodedBytes ≤ scan.inputBudgetBytes :=
      more.bytes (List.cons_ne_nil _ _)
    rw [List.length_cons] at count
    rw [WindowScan.offer_eq (presented turn member) (by omega), if_neg (by omega),
      if_neg (by omega), if_neg (by omega)]
  refuses := by
    intro turn kept next within supplied taken
    have member : turn ∈ turns := within.mem List.mem_cons_self
    rw [WindowScan.offer_eq (presented turn member) (supplied.light bounded)] at taken
    split_ifs at taken with full large beyond first
    · cases taken
    · cases taken
    · refine ⟨?_, fun _ => Nat.le_of_not_lt beyond⟩
      rw [List.length_cons]
      omega

/-- Where an offer fails: the encoding of the Turn is over the compaction limit, or the
Turn is the first one and too large alone. -/
theorem WindowScan.offer_fails {turn : Turn} {kept : List Turn}
    (presented : ∀ item ∈ modelVisibleItems turn.items, Presentable item)
    (light : (windowOf kept).encodedBytes ≤ maxCompactionInputBytes) :
    (∃ e, scan.offer turn (windowOf kept) = .error e) ↔ kept.length < scan.maxInputTurns ∧
      (maxCompactionInputBytes < (compactionTurn turn).toJson.encodedLen ∨
        (kept = [] ∧ scan.inputBudgetBytes < (windowOf [turn]).encodedBytes)) := by
  rw [WindowScan.offer_eq presented light]
  split_ifs with full large beyond first
  · simp [full]
  · simp [large, Nat.lt_of_not_le full]
  · rw [List.isEmpty_iff] at first
    subst first
    have room : 0 < scan.maxInputTurns := Nat.lt_of_not_le full
    simp [beyond, room]
  · rw [List.isEmpty_iff] at first
    simp [large, first]
  · simp only [exists_false, large, false_or, false_iff, not_and]
    rintro _ rfl more
    exact beyond more

/-- The loop is the walk over the visible Turns, without the first `skip` of them. -/
theorem WindowScan.run_eq (skip : Nat) (turns : List Turn) (window : CompactionWindow) :
    scan.run skip turns window = scanBack scan.offer ((visibleTurns turns).drop skip) window := by
  induction turns generalizing skip window with
  | nil => cases skip <;> rfl
  | cons turn turns ih =>
    have shown := visible_iff turn.items
    rw [visibleTurns_cons]
    cases visible : hasModelVisibleItems turn.items with
    | false =>
      rw [visible, Bool.not_false] at shown
      cases skip with
      | zero => simpa [WindowScan.run, shown] using ih 0 window
      | succ skip => simpa [WindowScan.run, shown] using ih (skip + 1) window
    | true =>
      rw [visible, Bool.not_true] at shown
      cases skip with
      | succ skip => simpa [WindowScan.run, shown] using ih skip window
      | zero =>
        simp only [WindowScan.run, shown, Bool.false_eq_true, if_false, if_true,
          List.drop_zero, scanBack]
        cases scan.offer turn window with
        | error e => rfl
        | ok taken =>
          cases taken with
          | none => rfl
          | some next => simpa using ih 0 next

section Found

variable {turns : List Turn} (presented : Presented turns)
  (bounded : scan.inputBudgetBytes ≤ maxCompactionInputBytes)

include presented bounded

/-- The scan of a history fails at a Turn directly before a run that fits: that Turn is
over the compaction limit, or it is the newest one and too large alone. -/
theorem WindowScan.fails_iff : (∃ e, scanBack scan.offer turns.reverse (windowOf []) = .error e) ↔
    ∃ older turn window, turns = older ++ turn :: window ∧ scan.Supplies window ∧
      window.length < scan.maxInputTurns ∧
        (maxCompactionInputBytes < (compactionTurn turn).toJson.encodedLen ∨
          (window = [] ∧ scan.inputBudgetBytes < (windowOf [turn]).encodedBytes)) := by
  have decides := WindowScan.decides presented bounded
  have refusal : ∀ {older : List Turn} {turn : Turn} {window : List Turn},
      turns = older ++ turn :: window → scan.Supplies window →
      ((∃ e, scan.offer turn (windowOf window) = .error e) ↔ window.length < scan.maxInputTurns ∧
        (maxCompactionInputBytes < (compactionTurn turn).toJson.encodedLen ∨
          (window = [] ∧ scan.inputBudgetBytes < (windowOf [turn]).encodedBytes))) := by
    intro older turn window split supplied
    exact WindowScan.offer_fails (presented turn (by simp [split])) (supplied.light bounded)
  constructor
  · rintro ⟨e, failed⟩
    obtain ⟨window, longest⟩ := exists_longestSuffix decides.empty decides.closed turns
    obtain ⟨older, split⟩ := longest.suffix
    obtain ⟨front, turn, rfl, answer⟩ := decides.failed split.symm longest failed
    rw [List.append_assoc, List.singleton_append] at split
    have cause := (refusal split.symm longest.admitted).1 ⟨e, answer⟩
    exact ⟨front, turn, window, split.symm, longest.admitted, cause⟩
  · rintro ⟨older, turn, window, split, supplied, cause⟩
    obtain ⟨e, answer⟩ := (refusal split supplied).2 cause
    have stops : ¬ scan.Supplies (turn :: window) := fun more => by
      rw [decides.takes turn window ⟨older, split.symm⟩ more] at answer
      cases answer
    have longest : LongestSuffix scan.Supplies turns window := by
      rw [split, ← List.singleton_append, ← List.append_assoc]
      refine longestSuffix_of_stops decides.closed supplied fun front x last => ?_
      obtain ⟨_, same⟩ := List.append_inj' last rfl
      cases same
      exact stops
    have walked : turns = (older ++ [turn]) ++ window := by
      rw [split, List.append_assoc, List.singleton_append]
    refine ⟨e, ?_⟩
    rw [decides.scanBack_eq walked longest, List.getLast?_concat, Option.elim_some, answer]
    rfl

/-- The scan of a history ends with the longest run that fits, and some Turn does. -/
theorem WindowScan.found {result : CompactionWindow} (filled : turns ≠ [])
    (room : 1 ≤ scan.maxInputTurns)
    (scanned : scanBack scan.offer turns.reverse (windowOf []) = .ok result) :
    ∃ older window, turns = older ++ window ∧ LongestSuffix scan.Supplies turns window ∧
      window ≠ [] ∧ result = windowOf window := by
  have decides := WindowScan.decides presented bounded
  obtain ⟨window, longest⟩ := exists_longestSuffix decides.empty decides.closed turns
  obtain ⟨older, split⟩ := longest.suffix
  refine ⟨older, window, split.symm, longest, ?_, decides.found split.symm longest scanned⟩
  rintro rfl
  rw [List.append_nil] at split
  subst split
  rcases List.eq_nil_or_concat older with rfl | ⟨front, turn, rfl⟩
  · exact filled rfl
  · rw [List.concat_eq_append] at longest scanned presented
    have large : scan.inputBudgetBytes < (windowOf [turn]).encodedBytes := by
      by_contra fits
      exact longest.stops ⟨room, fun _ => Nat.le_of_not_lt fits⟩
    obtain ⟨e, failed⟩ := (WindowScan.fails_iff presented bounded).2
      ⟨front, turn, [], rfl, decides.empty, room, .inr ⟨rfl, large⟩⟩
    rw [scanned] at failed
    cases failed

end Found

end WindowScan

/-! ## The scan for the Model -/

/-- The model-visible Items of these Turns, in order. -/
def visibleItems (turns : List Turn) : List Item :=
  turns.flatMap fun turn => modelVisibleItems turn.items

def bytesOf (items : List Item) : Nat := (items.map fun item => item.toJson.encodedLen).sum

namespace ContextEngine

/-- The tokens an Item is charged, when its counter counts it. -/
def itemTokens (engine : ContextEngine) (item : Item) : Option Nat :=
  (engine.countTextTokens item.toJson.text item.toJson.text.utf8ByteSize).toOption

/-- The sum over these Items. -/
def tokensOf (engine : ContextEngine) (items : List Item) : Option Nat :=
  (items.mapM engine.itemTokens).map List.sum

/-- The Turns within the Turn, token and byte budgets of the conversation. -/
structure Retains (engine : ContextEngine) (turns : List Turn) : Prop where
  count : turns.length ≤ engine.conversation.maxTurns
  tokens : ∃ total, engine.tokensOf (visibleItems turns) = some total ∧
    total ≤ engine.conversation.budgetTokens
  bytes : bytesOf (visibleItems turns) ≤ engine.conversation.budgetBytes

/-- The selection that holds these Turns. -/
def selectionOf (engine : ContextEngine) (turns : List Turn) : Selection :=
  ⟨turns.map fun turn => (turn.id, modelVisibleItems turn.items),
    (engine.tokensOf (visibleItems turns)).getD 0, bytesOf (visibleItems turns)⟩

end ContextEngine

section Engine

variable {engine : ContextEngine}

theorem checkedAdd_eq_some {a b sum : Nat} :
    checkedAdd a b = some sum ↔ sum = a + b ∧ sum ≤ usizeMax := by
  rw [checkedAdd]
  split
  · rename_i fits
    simp only [Option.some.injEq]
    constructor
    · rintro rfl
      exact ⟨rfl, fits⟩
    · exact fun same => same.1.symm
  · rename_i large
    simp only [reduceCtorEq, false_iff, not_and]
    rintro rfl fits
    exact large fits

@[simp] theorem bytesOf_cons (item : Item) (items : List Item) :
    bytesOf (item :: items) = item.toJson.encodedLen + bytesOf items := by
  simp [bytesOf]

@[simp] theorem bytesOf_append (items more : List Item) :
    bytesOf (items ++ more) = bytesOf items + bytesOf more := by
  simp [bytesOf]

@[simp] theorem visibleItems_cons (turn : Turn) (turns : List Turn) :
    visibleItems (turn :: turns) = modelVisibleItems turn.items ++ visibleItems turns :=
  List.flatMap_cons

theorem tokensOf_cons (item : Item) (items : List Item) :
    engine.tokensOf (item :: items) = (engine.itemTokens item).bind fun one =>
      (engine.tokensOf items).map fun rest => one + rest := by
  rw [ContextEngine.tokensOf, ContextEngine.tokensOf, List.mapM_cons]
  cases engine.itemTokens item with
  | none => rfl
  | some one => cases items.mapM engine.itemTokens <;> rfl

theorem tokensOf_append {items more : List Item} {total : Nat} :
    engine.tokensOf (items ++ more) = some total ↔ ∃ left right,
      engine.tokensOf items = some left ∧ engine.tokensOf more = some right ∧
        total = left + right := by
  induction items generalizing total with
  | nil =>
    rw [List.nil_append, show engine.tokensOf [] = some 0 from rfl]
    simp [eq_comm]
  | cons item items ih =>
    rw [List.cons_append, tokensOf_cons, tokensOf_cons]
    cases engine.itemTokens item with
    | none => simp
    | some one =>
      simp only [Option.bind_some, Option.map_eq_some_iff]
      constructor
      · rintro ⟨rest, counted, rfl⟩
        obtain ⟨left, right, first, second, rfl⟩ := ih.1 counted
        exact ⟨one + left, right, ⟨left, first, rfl⟩, second, by omega⟩
      · rintro ⟨_, right, ⟨left, first, rfl⟩, second, rfl⟩
        exact ⟨left + right, ih.2 ⟨left, right, first, second, rfl⟩, by omega⟩

/-- One step of the fold over the Items of a Turn. -/
theorem budgetItem_eq_ok {item : Item} (presentable : Presentable item) {sums next : Nat × Nat} :
    engine.budgetItem sums item = .ok next ↔ ∃ one, engine.itemTokens item = some one ∧
      next = (sums.1 + one, sums.2 + item.toJson.encodedLen) ∧ next.1 ≤ usizeMax ∧
        next.2 ≤ usizeMax := by
  obtain ⟨json, size⟩ := presentable
  rw [ContextEngine.budgetItem, json, ok_bind, boundedSerializedSize, if_pos size]
  rw [show (Except.ok item.toJson.encodedLen : Except BoundedJsonError Nat).mapError
    (contextJsonError "conversation Item" maxConversationBudgetBytes) =
      .ok item.toJson.encodedLen from rfl, ok_bind]
  simp only [bind_eq_ok, orError_eq_ok, checkedAdd_eq_some, text_size, ContextEngine.itemTokens]
  constructor
  · rintro ⟨one, counted, tokens, ⟨rfl, few⟩, bytes, ⟨rfl, light⟩, same⟩
    cases same
    exact ⟨one, by rw [counted]; rfl, rfl, few, light⟩
  · rintro ⟨one, counted, rfl, few, light⟩
    refine ⟨one, ?_, _, ⟨rfl, few⟩, _, ⟨rfl, light⟩, rfl⟩
    cases answer : engine.countTextTokens item.toJson.text item.toJson.encodedLen with
    | error e =>
      rw [answer] at counted
      cases counted
    | ok tokens =>
      rw [answer] at counted
      cases counted
      rfl

theorem budgetFold_eq_ok {items : List Item} (presentable : ∀ item ∈ items, Presentable item)
    {sums next : Nat × Nat} (few : sums.1 ≤ usizeMax) (light : sums.2 ≤ usizeMax) :
    items.foldlM engine.budgetItem sums = .ok next ↔ ∃ total, engine.tokensOf items = some total ∧
      next = (sums.1 + total, sums.2 + bytesOf items) ∧ next.1 ≤ usizeMax ∧
        next.2 ≤ usizeMax := by
  induction items generalizing sums next with
  | nil =>
    rw [List.foldlM_nil, show engine.tokensOf [] = some 0 from rfl]
    constructor
    · intro done
      cases done
      exact ⟨0, rfl, rfl, few, light⟩
    · rintro ⟨total, counted, rfl, _, _⟩
      cases counted
      rfl
  | cons item items ih =>
    have later := fun x member => presentable x (List.mem_cons_of_mem _ member)
    rw [List.foldlM_cons, bind_eq_ok, tokensOf_cons]
    simp only [budgetItem_eq_ok (presentable item List.mem_cons_self)]
    constructor
    · rintro ⟨_, ⟨one, counted, rfl, few', light'⟩, rest⟩
      obtain ⟨total, counts, rfl, few'', light''⟩ := (ih later few' light').1 rest
      rw [counted, Option.bind_some, counts]
      refine ⟨one + total, rfl, ?_, few'', light''⟩
      rw [bytesOf_cons, Nat.add_assoc, Nat.add_assoc]
    · rintro ⟨_, counts, rfl, few'', light''⟩
      obtain ⟨one, counted, rest⟩ := Option.bind_eq_some_iff.1 counts
      obtain ⟨total, left, rfl⟩ := Option.map_eq_some_iff.1 rest
      rw [bytesOf_cons] at light'' ⊢
      dsimp only at few'' light''
      refine ⟨_, ⟨one, counted, rfl, by dsimp only; omega, by dsimp only; omega⟩, ?_⟩
      refine (ih later (by dsimp only; omega) (by dsimp only; omega)).2 ⟨total, left, ?_, ?_⟩
      · simp only [Nat.add_assoc]
      · exact ⟨few'', light''⟩

/-- `budget_conversation_items` sums what the Items cost, unless a sum overflows. -/
theorem budgetConversationItems_eq_ok {items : List Item}
    (presentable : ∀ item ∈ items, Presentable item) {tokens bytes : Nat} :
    engine.budgetConversationItems items = .ok (tokens, bytes) ↔
      engine.tokensOf items = some tokens ∧ bytes = bytesOf items ∧ tokens ≤ usizeMax ∧
        bytes ≤ usizeMax := by
  rw [ContextEngine.budgetConversationItems,
    budgetFold_eq_ok presentable (Nat.zero_le _) (Nat.zero_le _)]
  constructor
  · rintro ⟨total, counted, same, few, light⟩
    simp only [Nat.zero_add, Prod.mk.injEq] at same
    obtain ⟨rfl, rfl⟩ := same
    exact ⟨counted, rfl, few, light⟩
  · rintro ⟨counted, rfl, few, light⟩
    exact ⟨tokens, counted, by simp, few, light⟩

theorem selectionOf_length (kept : List Turn) :
    (engine.selectionOf kept).turns.length = kept.length := List.length_map _

variable {kept : List Turn} {turn : Turn}

theorem selectionOf_tokens {total : Nat}
    (counted : engine.tokensOf (visibleItems kept) = some total) :
    (engine.selectionOf kept).estimatedTokens = total := by
  rw [ContextEngine.selectionOf, counted, Option.getD_some]

theorem ContextEngine.Retains.tail (more : engine.Retains (turn :: kept)) :
    engine.Retains kept := by
  obtain ⟨count, ⟨total, counted, within⟩, bytes⟩ := more
  rw [visibleItems_cons] at counted bytes
  obtain ⟨left, right, _, counts, rfl⟩ := tokensOf_append.1 counted
  rw [bytesOf_append] at bytes
  rw [List.length_cons] at count
  exact ⟨by omega, ⟨right, counts, by omega⟩, by omega⟩

theorem validateConversationConfig_eq_ok {config : ConversationContextConfig} {u : Unit} :
    validateConversationConfig config = .ok u ↔
      ((1 ≤ config.maxTurns ∧ config.maxTurns ≤ maxConversationTurns) ∧
        1 ≤ config.budgetTokens ∧ config.budgetTokens ≤ maxConversationBudgetTokens) ∧
        1 ≤ config.budgetBytes ∧ config.budgetBytes ≤ maxConversationBudgetBytes := by
  simp only [validateConversationConfig, rejectIf_eq_ok, Bool.or_eq_false_iff, Bool.not_eq_false',
    inRange, Bool.and_eq_true, decide_eq_true_eq]

/-- The offer of a Turn that fits with what is kept. -/
theorem ContextEngine.offer_takes
    (presented : ∀ item ∈ modelVisibleItems turn.items, Presentable item)
    (valid : validateConversationConfig engine.conversation = .ok ())
    (more : engine.Retains (turn :: kept)) :
    engine.offer turn (engine.selectionOf kept) =
      .ok (some (engine.selectionOf (turn :: kept))) := by
  obtain ⟨⟨_, _, atMost⟩, _, atMost'⟩ := validateConversationConfig_eq_ok.1 valid
  have fewTokens : engine.conversation.budgetTokens ≤ usizeMax := atMost.trans (by decide)
  have fewBytes : engine.conversation.budgetBytes ≤ usizeMax := atMost'.trans (by decide)
  obtain ⟨count, ⟨total, counted, within⟩, bytes⟩ := more
  have whole := selectionOf_tokens counted
  rw [visibleItems_cons] at counted bytes
  obtain ⟨left, right, first, second, rfl⟩ := tokensOf_append.1 counted
  rw [bytesOf_append] at bytes
  rw [List.length_cons] at count
  have cost : engine.budgetConversationItems (modelVisibleItems turn.items) =
      .ok (left, bytesOf (modelVisibleItems turn.items)) :=
    (budgetConversationItems_eq_ok presented).2
      ⟨first, rfl, by omega, by omega⟩
  have tokens : checkedAdd (engine.selectionOf kept).estimatedTokens left =
      some (engine.selectionOf (turn :: kept)).estimatedTokens := by
    rw [selectionOf_tokens second, whole, checkedAdd_eq_some]
    exact ⟨Nat.add_comm _ _, by omega⟩
  have size : checkedAdd (engine.selectionOf kept).serializedBytes
      (bytesOf (modelVisibleItems turn.items)) =
      some (engine.selectionOf (turn :: kept)).serializedBytes := by
    simp only [ContextEngine.selectionOf, visibleItems_cons, bytesOf_append, checkedAdd_eq_some]
    exact ⟨Nat.add_comm _ _, by omega⟩
  have tokensFit : ¬ engine.conversation.budgetTokens <
      (engine.selectionOf (turn :: kept)).estimatedTokens := by
    rw [whole]
    omega
  have bytesFit : ¬ engine.conversation.budgetBytes <
      (engine.selectionOf (turn :: kept)).serializedBytes := by
    simp only [ContextEngine.selectionOf, visibleItems_cons, bytesOf_append]
    omega
  rw [ContextEngine.offer, selectionOf_length, if_neg (by omega), cost, ok_bind]
  dsimp only
  rw [tokens, orError, ok_bind, if_neg tokensFit, size, orError, ok_bind, if_neg bytesFit]
  rfl

/-- What the offer of the next Turn did: it took the Turn, or broke off, or failed. -/
theorem ContextEngine.offer_result
    (presented : ∀ item ∈ modelVisibleItems turn.items, Presentable item)
    (retained : engine.Retains kept) {answer : Except HarnessError (Option Selection)}
    (offered : engine.offer turn (engine.selectionOf kept) = answer) :
    (∀ next, answer = .ok (some next) → engine.Retains (turn :: kept)) ∧
      (∀ e, answer = .error e → kept.length < engine.conversation.maxTurns ∧
        ∀ tokens, engine.tokensOf (visibleItems (turn :: kept)) = some tokens →
          usizeMax < tokens ∨ usizeMax < bytesOf (visibleItems (turn :: kept))) := by
  obtain ⟨count, ⟨right, second, within⟩, bytes⟩ := retained
  rw [ContextEngine.offer, selectionOf_length] at offered
  by_cases full : engine.conversation.maxTurns ≤ kept.length
  · rw [if_pos full] at offered
    subst offered
    simp
  rw [if_neg full] at offered
  cases cost : engine.budgetConversationItems (modelVisibleItems turn.items) with
  | error e =>
    rw [cost, error_bind] at offered
    subst offered
    refine ⟨by simp, fun _ _ => ⟨Nat.lt_of_not_le full, fun tokens counted => ?_⟩⟩
    rw [visibleItems_cons] at counted ⊢
    obtain ⟨left, right', first, second', rfl⟩ := tokensOf_append.1 counted
    rw [bytesOf_append]
    by_contra small
    have fits : engine.budgetConversationItems (modelVisibleItems turn.items) =
        .ok (left, bytesOf (modelVisibleItems turn.items)) :=
      (budgetConversationItems_eq_ok presented).2 ⟨first, rfl, by omega, by omega⟩
    rw [cost] at fits
    cases fits
  | ok sums =>
    obtain ⟨left, size⟩ := sums
    obtain ⟨first, rfl, few, light⟩ := (budgetConversationItems_eq_ok presented).1 cost
    rw [cost, ok_bind, selectionOf_tokens second] at offered
    have total : engine.tokensOf (visibleItems (turn :: kept)) = some (left + right) := by
      rw [visibleItems_cons]
      exact tokensOf_append.2 ⟨left, right, first, second, rfl⟩
    have sum : bytesOf (visibleItems (turn :: kept)) =
        bytesOf (visibleItems kept) + bytesOf (modelVisibleItems turn.items) := by
      rw [visibleItems_cons, bytesOf_append, Nat.add_comm]
    dsimp only at offered
    by_cases few' : right + left ≤ usizeMax
    · rw [checkedAdd_eq_some.2 ⟨rfl, few'⟩, orError, ok_bind] at offered
      by_cases beyond : engine.conversation.budgetTokens < right + left
      · rw [if_pos beyond] at offered
        subst offered
        simp
      rw [if_neg beyond] at offered
      by_cases light' : bytesOf (visibleItems kept) + bytesOf (modelVisibleItems turn.items) ≤
          usizeMax
      · rw [show (engine.selectionOf kept).serializedBytes = bytesOf (visibleItems kept) from rfl,
          checkedAdd_eq_some.2 ⟨rfl, light'⟩, orError, ok_bind] at offered
        by_cases heavy : engine.conversation.budgetBytes <
            bytesOf (visibleItems kept) + bytesOf (modelVisibleItems turn.items)
        · rw [if_pos heavy] at offered
          subst offered
          simp
        · rw [if_neg heavy] at offered
          subst offered
          refine ⟨fun _ _ => ⟨?_, ⟨left + right, total, by omega⟩, by omega⟩, by simp⟩
          rw [List.length_cons]
          omega
      · rw [show (engine.selectionOf kept).serializedBytes = bytesOf (visibleItems kept) from rfl,
          checkedAdd, if_neg light', orError, error_bind] at offered
        subst offered
        refine ⟨by simp, fun _ _ => ⟨Nat.lt_of_not_le full, fun _ _ => .inr ?_⟩⟩
        omega
    · rw [checkedAdd, if_neg few', orError, error_bind] at offered
      subst offered
      refine ⟨by simp, fun _ _ => ⟨Nat.lt_of_not_le full, fun tokens counted => .inl ?_⟩⟩
      rw [total, Option.some.injEq] at counted
      omega

/-- The scan decides by the sums over what it holds. -/
theorem ContextEngine.decides {turns : List Turn} (presented : Presented turns)
    (valid : validateConversationConfig engine.conversation = .ok ()) :
    Decides engine.offer engine.selectionOf engine.Retains turns where
  empty := ⟨Nat.zero_le _, ⟨0, rfl, Nat.zero_le _⟩, Nat.zero_le _⟩
  closed := fun _ _ more => more.tail
  takes := fun turn _ within more =>
    ContextEngine.offer_takes (presented turn (within.mem List.mem_cons_self)) valid more
  refuses := fun turn _ next within retained taken =>
    (ContextEngine.offer_result (presented turn (within.mem List.mem_cons_self)) retained
      taken).1 next rfl

/-- The loop is the walk over the visible Turns. -/
theorem ContextEngine.select_eq (turns : List Turn) (selection : Selection) :
    engine.select turns selection = scanBack engine.offer (visibleTurns turns) selection := by
  induction turns generalizing selection with
  | nil => rfl
  | cons turn turns ih =>
    have shown := visible_iff turn.items
    rw [visibleTurns_cons]
    cases visible : hasModelVisibleItems turn.items with
    | false =>
      rw [visible, Bool.not_false] at shown
      simpa [ContextEngine.select, shown] using ih selection
    | true =>
      rw [visible, Bool.not_true] at shown
      simp only [ContextEngine.select, shown, Bool.false_eq_true, if_false, if_true, scanBack]
      cases engine.offer turn selection with
      | error e => rfl
      | ok taken =>
        cases taken with
        | none => rfl
        | some next => exact ih next

end Engine

end YHarness.Context
