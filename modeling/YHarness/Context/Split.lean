/-
# YHarness.Context.Split -- a compiled conversation is an exact split of the history

Whenever `compile_conversation` succeeds, the model-visible Turns of the Thread are older
Turns, then the compaction window, then the retained Turns, with nothing lost or repeated:
the retained Turns are the longest suffix within the conversation budgets and the window is
the longest run directly before them within the compaction bounds (`ExactSplit`).

A failure should be due to the newest omitted Turn alone (`OnlyNewestFails`).  It is not:
the window scan measures the next older Turn under a limit of its own before it asks
whether the Turn fits, and fails when the Turn is over that limit.  So the promise holds
exactly when no Turn the scan reaches is (`splits_iff_older_fit`); one Turn of more than
8 MiB, long out of the window, makes every compilation of its Thread fail
(`huge_old_turn_refused`).
-/
import YHarness.Context.Scans
import YHarness.Kernel.Sizes

namespace YHarness.Context

open YHarness.Lib YHarness.Kernel
open YHarness.Runtime (modelVisibleItem)
open YHarness.State (ItemAdmitted ItemsAdmitted)

set_option autoImplicit false

/-! ## The promise -/

/-- The Turns a compactor may be given. -/
abbrev Supplied (config : ConversationCompactionConfig) : List Turn → Prop :=
  (ContextEngine.compactionScan config).Supplies

/-- The compiled conversation is an exact split of the visible Turns of the Thread. -/
structure ExactSplit [Sha256] (engine : ContextEngine) (thread : Thread)
    (context : ConversationContext) (older window retained : List Turn) : Prop where
  tiles : visibleTurns thread.turns = older ++ window ++ retained
  longest : LongestSuffix engine.Retains (visibleTurns thread.turns) retained
  items : context.items = visibleItems retained
  included : context.includedTurns = retained.map (·.id)
  dropped : context.droppedTurns = (older ++ window).length
  tokens : engine.tokensOf (visibleItems retained) = some context.estimatedTokens
  bytes : context.serializedBytes = bytesOf (visibleItems retained)
  unconfigured : engine.conversationCompaction = none →
    window = [] ∧ context.preparedCompaction = none
  compaction : ∀ config, engine.conversationCompaction = some config →
    LongestSuffix (Supplied config) (older ++ window) window ∧
      context.preparedCompaction = if older ++ window = [] then none else some {
        threadId := thread.id
        turns := window.map compactionTurn
        olderOmittedTurns := older.length
        retainedTurns := retained.map (·.id)
        sourceSha256 := Sha256.digest (.json (compactionTurnsJson (window.map compactionTurn))) }

/-- The newest omitted Turn is what a compilation fails on: its counter does not count it,
its sums overflow, or the list of it alone is over the input budget of the compactor. -/
inductive NewestRefused (engine : ContextEngine) (config : ConversationCompactionConfig)
    (newest : Turn) (retained : List Turn) : Prop
  | uncounted (room : retained.length < engine.conversation.maxTurns)
      (fails : engine.tokensOf (visibleItems (newest :: retained)) = none)
  | overflow (room : retained.length < engine.conversation.maxTurns) (tokens : Nat)
      (counted : engine.tokensOf (visibleItems (newest :: retained)) = some tokens)
      (large : usizeMax < tokens ∨ usizeMax < bytesOf (visibleItems (newest :: retained)))
  | tooLarge (large : config.inputBudgetBytes <
      (compactionTurnsJson [compactionTurn newest]).encodedLen)

/-- Every failure with a compactor is due to the newest omitted Turn. -/
def OnlyNewestFails [Sha256] (engine : ContextEngine) (thread : Thread) : Prop :=
  ∀ config, engine.conversationCompaction = some config →
    ∀ e, engine.compileConversation thread = .error e →
      ∃ older newest retained, visibleTurns thread.turns = older ++ newest :: retained ∧
        LongestSuffix engine.Retains (visibleTurns thread.turns) retained ∧
        NewestRefused engine config newest retained

/-- Unless the newest omitted Turn is refused, every older Turn that the window scan reaches
is within the compaction limit.  It reaches the Turn before a run of omitted Turns that fits
and leaves room for one more. -/
def OlderTurnsFit (engine : ContextEngine) (thread : Thread) : Prop :=
  ∀ config, engine.conversationCompaction = some config →
    ∀ older turn window newest retained,
      visibleTurns thread.turns = older ++ turn :: (window ++ newest :: retained) →
      LongestSuffix engine.Retains (visibleTurns thread.turns) retained →
      ¬ NewestRefused engine config newest retained →
      Supplied config (window ++ [newest]) →
      (window ++ [newest]).length < config.maxInputTurns →
      (compactionTurn turn).toJson.encodedLen ≤ maxCompactionInputBytes

/-! ## The two scans of a compilation -/

section Compile

variable {engine : ContextEngine} {thread : Thread} {config : ConversationCompactionConfig}
  {omitted retained : List Turn}

theorem validateCompactionConfig_bounds (valid : validateCompactionConfig config = .ok ()) :
    1 ≤ config.maxInputTurns ∧ config.inputBudgetBytes ≤ maxCompactionInputBytes := by
  simp only [validateCompactionConfig, seq_eq_ok, rejectIf_eq_ok, Bool.or_eq_false_iff,
    Bool.not_eq_false', inRange, Bool.and_eq_true, decide_eq_true_eq] at valid
  exact ⟨valid.2.1.1.1.1, valid.2.1.1.2.2⟩

/-- The first scan walks the visible Turns. -/
theorem select_visible (engine : ContextEngine) (thread : Thread) :
    engine.select thread.turns.reverse .empty =
      scanBack engine.offer (visibleTurns thread.turns).reverse (engine.selectionOf []) := by
  rw [ContextEngine.select_eq, visibleTurns_reverse]
  rfl

theorem presented_visible (presented : Presented thread.turns) :
    Presented (visibleTurns thread.turns) :=
  fun turn member => presented turn (List.mem_of_mem_filter member)

/-- The second scan walks the Turns the first one left. -/
theorem run_omitted (split : visibleTurns thread.turns = omitted ++ retained) :
    (ContextEngine.compactionScan config).run retained.length thread.turns.reverse .empty =
      scanBack (ContextEngine.compactionScan config).offer omitted.reverse (windowOf []) := by
  have reversed : visibleTurns thread.turns.reverse = retained.reverse ++ omitted.reverse := by
    rw [visibleTurns_reverse, split, List.reverse_append]
  rw [WindowScan.run_eq, reversed, List.drop_left' List.length_reverse]
  rfl

theorem presented_omitted (presented : Presented thread.turns)
    (split : visibleTurns thread.turns = omitted ++ retained) : Presented omitted := by
  intro turn member
  have visible : turn ∈ visibleTurns thread.turns := by
    rw [split]
    exact List.mem_append_left _ member
  exact presented turn (List.mem_of_mem_filter visible)

variable [Sha256]

/-- What is left of `compile_conversation` once the retained Turns are selected. -/
theorem compile_eq (valid : validateConversationConfig engine.conversation = .ok ())
    (compactionValid : checkSome validateCompactionConfig engine.conversationCompaction = .ok ())
    (split : visibleTurns thread.turns = omitted ++ retained)
    (selected : engine.select thread.turns.reverse .empty = .ok (engine.selectionOf retained)) :
    engine.compileConversation thread =
      engine.prepareConversationCompaction thread retained.length omitted.length
        (retained.map (·.id)) >>= fun prepared => .ok {
          items := visibleItems retained
          includedTurns := retained.map (·.id)
          droppedTurns := omitted.length
          estimatedTokens := (engine.selectionOf retained).estimatedTokens
          serializedBytes := bytesOf (visibleItems retained)
          preparedCompaction := prepared } := by
  have count : (thread.turns.filter fun turn => hasModelVisibleItems turn.items).length =
      omitted.length + retained.length := by
    rw [← List.length_append, ← split, visibleTurns]
  have ids : (engine.selectionOf retained).turns.map (·.1) = retained.map (·.id) := by
    rw [ContextEngine.selectionOf, List.map_map]
    rfl
  have items : (engine.selectionOf retained).turns.flatMap (·.2) = visibleItems retained := by
    rw [ContextEngine.selectionOf, List.flatMap_map]
    rfl
  rw [ContextEngine.compileConversation, valid, ok_bind, compactionValid, ok_bind, selected]
  simp only [ok_bind, ids, items, count, List.length_map, selectionOf_length, Nat.add_sub_cancel]
  rfl

/-- What is left of `prepare_conversation_compaction` after the second scan. -/
theorem prepare_eq (configured : engine.conversationCompaction = some config)
    (filled : omitted ≠ []) (split : visibleTurns thread.turns = omitted ++ retained) :
    engine.prepareConversationCompaction thread retained.length omitted.length
        (retained.map (·.id)) =
      scanBack (ContextEngine.compactionScan config).offer omitted.reverse (windowOf []) >>=
        fun window => (boundedSerializedSha256 (compactionTurnsJson window.turns)
          config.inputBudgetBytes).mapError
            (contextJsonError "conversation compaction source" config.inputBudgetBytes) >>=
          fun sourceSha256 => .ok (some {
            threadId := thread.id
            turns := window.turns
            olderOmittedTurns := omitted.length - window.turns.length
            retainedTurns := retained.map (·.id)
            sourceSha256 }) := by
  have some_dropped : omitted.length ≠ 0 := fun none =>
    filled (List.length_eq_zero_iff.1 none)
  rw [ContextEngine.prepareConversationCompaction, configured]
  dsimp only
  rw [if_neg some_dropped, run_omitted split]

/-- A window that was found encodes within its budget, so it has a digest. -/
theorem digest_of_supplied {window : List Turn} (supplied : Supplied config window)
    (filled : window ≠ []) :
    boundedSerializedSha256 (compactionTurnsJson (windowOf window).turns)
        config.inputBudgetBytes =
      .ok (Sha256.digest (.json (compactionTurnsJson (window.map compactionTurn)))) := by
  have fits : (compactionTurnsJson (windowOf window).turns).encodedLen ≤
      config.inputBudgetBytes := supplied.bytes filled
  rw [boundedSerializedSha256, boundedSerializedSize, if_pos fits]
  rfl

/-- What a compactor is handed: the longest run of the omitted Turns that fits. -/
theorem compaction_of_prepared (presented : Presented thread.turns)
    (configured : engine.conversationCompaction = some config)
    (valid : validateCompactionConfig config = .ok ())
    (split : visibleTurns thread.turns = omitted ++ retained)
    {prepared : Option PreparedConversationCompaction}
    (done : engine.prepareConversationCompaction thread retained.length omitted.length
      (retained.map (·.id)) = .ok prepared) :
    ∃ older window, omitted = older ++ window ∧
      LongestSuffix (Supplied config) omitted window ∧
      prepared = if omitted = [] then none else some {
        threadId := thread.id
        turns := window.map compactionTurn
        olderOmittedTurns := older.length
        retainedTurns := retained.map (·.id)
        sourceSha256 :=
          Sha256.digest (.json (compactionTurnsJson (window.map compactionTurn))) } := by
  obtain ⟨room, bounded⟩ := validateCompactionConfig_bounds valid
  have omittedPresented := presented_omitted presented split
  by_cases none : omitted = []
  · subst none
    rw [ContextEngine.prepareConversationCompaction, configured] at done
    cases done
    have decides : Decides (ContextEngine.compactionScan config).offer windowOf
        (Supplied config) [] := WindowScan.decides omittedPresented bounded
    obtain ⟨window, longest⟩ := exists_longestSuffix decides.empty decides.closed []
    obtain rfl : window = [] := List.suffix_nil.1 longest.suffix
    exact ⟨[], [], rfl, longest, rfl⟩
  · rw [prepare_eq configured none split] at done
    obtain ⟨_, scanned, finished⟩ := bind_eq_ok.1 done
    obtain ⟨older, window, tiles, longest, filled, rfl⟩ := WindowScan.found omittedPresented
      bounded none room scanned
    rw [digest_of_supplied longest.admitted filled] at finished
    cases finished
    refine ⟨older, window, tiles, longest, ?_⟩
    have left : omitted.length - (windowOf window).turns.length = older.length := by
      rw [tiles, List.length_append, windowOf, List.length_map, Nat.add_sub_cancel]
    rw [if_neg none, left]
    rfl

/-- **A success is a split.** -/
theorem split_of_compiled (presented : Presented thread.turns) {context : ConversationContext}
    (compiled : engine.compileConversation thread = .ok context) :
    ∃ older window retained, ExactSplit engine thread context older window retained := by
  have valid : validateConversationConfig engine.conversation = .ok () :=
    (seq_eq_ok.1 compiled).1
  have compactionValid : checkSome validateCompactionConfig engine.conversationCompaction =
      .ok () := (seq_eq_ok.1 (seq_eq_ok.1 compiled).2).1
  have decides := ContextEngine.decides (presented_visible presented) valid
  obtain ⟨retained, longest⟩ := exists_longestSuffix decides.empty decides.closed
    (visibleTurns thread.turns)
  obtain ⟨omitted, split⟩ := longest.suffix
  have selected : engine.select thread.turns.reverse .empty =
      .ok (engine.selectionOf retained) := by
    cases answer : engine.select thread.turns.reverse .empty with
    | error e =>
      rw [ContextEngine.compileConversation, valid, ok_bind, compactionValid, ok_bind,
        answer] at compiled
      cases compiled
    | ok selection =>
      rw [select_visible] at answer
      rw [decides.found split.symm longest answer]
  rw [compile_eq valid compactionValid split.symm selected] at compiled
  obtain ⟨prepared, done, same⟩ := bind_eq_ok.1 compiled
  cases same
  obtain ⟨total, counted, _⟩ := longest.admitted.tokens
  have tokens : engine.tokensOf (visibleItems retained) =
      some (engine.selectionOf retained).estimatedTokens := by
    rw [selectionOf_tokens counted, counted]
  cases configured : engine.conversationCompaction with
  | none =>
    rw [ContextEngine.prepareConversationCompaction, configured] at done
    cases done
    refine ⟨omitted, [], retained, ?_⟩
    exact {
      tiles := by rw [List.append_nil, split]
      longest
      items := rfl
      included := rfl
      dropped := by rw [List.append_nil]
      tokens
      bytes := rfl
      unconfigured := fun _ => ⟨rfl, rfl⟩
      compaction := fun config some_config => by
        rw [configured] at some_config
        cases some_config }
  | some config =>
    obtain ⟨older, window, rfl, run, rfl⟩ := compaction_of_prepared presented configured
      (checkSome_eq_ok.1 compactionValid config configured) split.symm done
    refine ⟨older, window, retained, ?_⟩
    exact {
      tiles := split.symm
      longest
      items := rfl
      included := rfl
      dropped := rfl
      tokens
      bytes := rfl
      unconfigured := fun none => by
        rw [configured] at none
        cases none
      compaction := fun config' same => by
        rw [configured] at same
        cases same
        exact ⟨run, rfl⟩ }

/-! ## Failures -/

/-- The window scan reaches a Turn that is over the compaction limit. -/
def ReachesHuge (engine : ContextEngine) (config : ConversationCompactionConfig)
    (thread : Thread) : Prop :=
  ∃ older turn window newest retained,
    visibleTurns thread.turns = older ++ turn :: (window ++ newest :: retained) ∧
    LongestSuffix engine.Retains (visibleTurns thread.turns) retained ∧
    Supplied config (window ++ [newest]) ∧
    (window ++ [newest]).length < config.maxInputTurns ∧
    maxCompactionInputBytes < (compactionTurn turn).toJson.encodedLen

/-- A compilation fails at the newest omitted Turn, or because the window scan reaches a
Turn over the compaction limit. -/
theorem refused_or_huge (presented : Presented thread.turns)
    (valid : validateConversationConfig engine.conversation = .ok ())
    (configured : engine.conversationCompaction = some config)
    (compactionValid : validateCompactionConfig config = .ok ()) {e : HarnessError}
    (failed : engine.compileConversation thread = .error e) :
    (∃ older newest retained, visibleTurns thread.turns = older ++ newest :: retained ∧
      LongestSuffix engine.Retains (visibleTurns thread.turns) retained ∧
      NewestRefused engine config newest retained) ∨ ReachesHuge engine config thread := by
  obtain ⟨room, bounded⟩ := validateCompactionConfig_bounds compactionValid
  have visible := presented_visible presented
  have decides := ContextEngine.decides visible valid
  obtain ⟨retained, longest⟩ := exists_longestSuffix decides.empty decides.closed
    (visibleTurns thread.turns)
  obtain ⟨omitted, split⟩ := longest.suffix
  cases answer : engine.select thread.turns.reverse .empty with
  | error e' =>
    rw [select_visible] at answer
    obtain ⟨older, newest, rfl, offered⟩ := decides.failed split.symm longest answer
    rw [List.append_assoc, List.singleton_append] at split
    refine .inl ⟨older, newest, retained, split.symm, longest, ?_⟩
    have refused := ContextEngine.offer_result
      (visible newest (by rw [← split]; simp)) longest.admitted offered
    obtain ⟨space, large⟩ := refused.2 e' rfl
    cases counted : engine.tokensOf (visibleItems (newest :: retained)) with
    | none => exact .uncounted space counted
    | some tokens => exact .overflow space tokens counted (large tokens counted)
  | ok selection =>
    rw [select_visible] at answer
    have selected : engine.select thread.turns.reverse .empty =
        .ok (engine.selectionOf retained) := by
      rw [select_visible, answer, decides.found split.symm longest answer]
    have compactionChecked : checkSome validateCompactionConfig engine.conversationCompaction =
        .ok () := by rw [configured, checkSome, compactionValid]
    rw [compile_eq valid compactionChecked split.symm selected] at failed
    have filled : omitted ≠ [] := by
      rintro rfl
      rw [ContextEngine.prepareConversationCompaction, configured] at failed
      cases failed
    rw [prepare_eq configured filled split.symm] at failed
    have omittedPresented := presented_omitted presented split.symm
    cases scanned : scanBack (ContextEngine.compactionScan config).offer omitted.reverse
        (windowOf []) with
    | ok result =>
      obtain ⟨older, window, tiles, run, some_window, rfl⟩ := WindowScan.found
        omittedPresented bounded filled room scanned
      rw [scanned, ok_bind, digest_of_supplied run.admitted some_window] at failed
      cases failed
    | error e' =>
      obtain ⟨older, turn, window, rfl, supplied, space, huge | ⟨rfl, large⟩⟩ :=
        (WindowScan.fails_iff omittedPresented bounded).1 ⟨e', scanned⟩
      · rw [List.append_assoc, List.cons_append] at split
        rcases List.eq_nil_or_concat window with rfl | ⟨front, newest, rfl⟩
        · refine .inl ⟨older, turn, retained, split.symm, longest, .tooLarge ?_⟩
          have alone : (compactionTurn turn).toJson.encodedLen ≤
              (compactionTurnsJson [compactionTurn turn]).encodedLen :=
            State.encodedLen_value (by simp)
          omega
        · rw [List.concat_eq_append] at split supplied space
          refine .inr ⟨older, turn, front, newest, retained, ?_, longest, supplied, space,
            huge⟩
          rw [← split, List.append_assoc, List.singleton_append]
      · refine .inl ⟨older, turn, retained, ?_, longest, .tooLarge large⟩
        rw [← split, List.append_assoc, List.singleton_append]

/-- A Turn over the compaction limit that the window scan reaches makes every compilation
fail. -/
theorem fails_of_huge (presented : Presented thread.turns)
    (configured : engine.conversationCompaction = some config)
    (huge : ReachesHuge engine config thread) (context : ConversationContext) :
    engine.compileConversation thread ≠ .ok context := by
  intro compiled
  obtain ⟨older, turn, window, newest, retained, tiles, longest, supplied, space, large⟩ := huge
  have valid : validateConversationConfig engine.conversation = .ok () :=
    (seq_eq_ok.1 compiled).1
  have compactionChecked : checkSome validateCompactionConfig engine.conversationCompaction =
      .ok () := (seq_eq_ok.1 (seq_eq_ok.1 compiled).2).1
  obtain ⟨_, bounded⟩ := validateCompactionConfig_bounds
    (checkSome_eq_ok.1 compactionChecked config configured)
  have split : visibleTurns thread.turns =
      (older ++ turn :: (window ++ [newest])) ++ retained := by
    rw [tiles]
    simp
  have decides := ContextEngine.decides (presented_visible presented) valid
  cases answer : engine.select thread.turns.reverse .empty with
  | error e =>
    rw [ContextEngine.compileConversation, valid, ok_bind, compactionChecked, ok_bind,
      answer] at compiled
    cases compiled
  | ok selection =>
    have selected : engine.select thread.turns.reverse .empty =
        .ok (engine.selectionOf retained) := by
      rw [select_visible] at answer
      rw [select_visible, answer, decides.found split longest answer]
    obtain ⟨e, failed⟩ := (WindowScan.fails_iff (presented_omitted presented split) bounded).2
      ⟨older, turn, window ++ [newest], rfl, supplied, space, .inl large⟩
    rw [compile_eq valid compactionChecked split selected,
      prepare_eq configured (by simp) split, failed] at compiled
    cases compiled

end Compile

/-! ## The promise and its condition -/

section Promise

variable [Sha256] {engine : ContextEngine} {thread : Thread}

theorem olderFit_of_onlyNewest (presented : Presented thread.turns)
    (onlyNewest : OnlyNewestFails engine thread) : OlderTurnsFit engine thread := by
  intro config configured older turn window newest retained tiles longest unrefused supplied space
  by_contra huge
  have reached : ReachesHuge engine config thread :=
    ⟨older, turn, window, newest, retained, tiles, longest, supplied, space,
      Nat.lt_of_not_le huge⟩
  cases answer : engine.compileConversation thread with
  | ok context => exact fails_of_huge presented configured reached context answer
  | error e =>
    obtain ⟨older', newest', retained', tiles', longest', refused⟩ :=
      onlyNewest config configured e answer
    obtain rfl := longest.unique longest'
    have whole : older ++ turn :: window ++ [newest] ++ retained =
        older' ++ [newest'] ++ retained := by
      rw [List.append_assoc older', List.singleton_append, ← tiles', tiles]
      simp
    obtain ⟨_, last⟩ := List.append_inj' (List.append_cancel_right whole) rfl
    cases last
    exact unrefused refused

theorem onlyNewest_of_olderFit (presented : Presented thread.turns)
    (valid : validateConversationConfig engine.conversation = .ok ())
    (compactionValid : ∀ config, engine.conversationCompaction = some config →
      validateCompactionConfig config = .ok ())
    (fit : OlderTurnsFit engine thread) : OnlyNewestFails engine thread := by
  intro config configured e failed
  rcases refused_or_huge presented valid configured (compactionValid config configured)
    failed with refused | huge
  · exact refused
  · obtain ⟨front, turn, window, newest, retained, tiles, longest, supplied, space, large⟩ := huge
    have split : visibleTurns thread.turns = (front ++ turn :: window) ++ newest :: retained := by
      rw [tiles]
      simp
    refine ⟨_, newest, retained, split, longest, ?_⟩
    by_contra unrefused
    have small := fit config configured front turn window newest retained tiles longest
      unrefused supplied space
    omega

end Promise

/-- **Main theorem.**  For every Thread of admitted Items and every valid configuration: a
compilation that succeeds is an exact split and one that fails does so at the newest omitted
Turn, exactly when no older Turn the window scan reaches is over the compaction limit. -/
theorem splits_iff_older_fit [Sha256] (engine : ContextEngine) (thread : Thread)
    (admitted : ItemsAdmitted thread.turns)
    (valid : validateConversationConfig engine.conversation = .ok ())
    (compactionValid : ∀ config, engine.conversationCompaction = some config →
      validateCompactionConfig config = .ok ()) :
    ((∀ context, engine.compileConversation thread = .ok context →
        ∃ older window retained, ExactSplit engine thread context older window retained) ∧
      OnlyNewestFails engine thread) ↔ OlderTurnsFit engine thread := by
  have presented := presented_of_admitted admitted
  constructor
  · exact fun promised => olderFit_of_onlyNewest presented promised.2
  · exact fun fit => ⟨fun _ compiled => split_of_compiled presented compiled,
      onlyNewest_of_olderFit presented valid compactionValid fit⟩

/-! ## A huge old Turn -/

/-- A Tool result of one text. -/
def textOutput (id : ItemId) (text : String) : Item :=
  ⟨id, 1, .toolResult "call" (.str text) false []⟩

/-- A Turn of nine Tool results of one text. -/
def outputTurn (text : String) : Turn :=
  ⟨"turn-1", "thread", .completed,
    (List.range 9).map fun n => textOutput ("output-" ++ toString n) text, none⟩

def smallTurn (id : TurnId) : Turn :=
  ⟨id, "thread", .completed, [⟨"item-" ++ id, 1, .userMessage "hello"⟩], none⟩

/-- A Turn of Tool results, and two short Turns after it. -/
def outputThread (text : String) : Thread :=
  ⟨"thread", none, none, none, none, 1,
    [outputTurn text, smallTurn "turn-2", smallTurn "turn-3"], []⟩

/-- One retained Turn, and a compactor within its default bounds. -/
def oneTurnEngine : ContextEngine where
  conversation := ⟨1, 65536, 65536⟩
  conversationCompaction := some ⟨"summary", 64, 1048576, 4096, 65536⟩
  tokenCounter := none
  tokenCounters := []

section Huge

variable {text : String}

theorem textOutput_admitted [Sha256] {id : ItemId}
    (idValid : State.validateStateId "item" id = .ok ()) (idShort : stringLen id ≤ 20)
    (short : stringLen text ≤ 1000002) : ItemAdmitted (textOutput id text) := by
  have keys : ∀ key ∈ ["type", "item_appended", "turn_id", "turn-1", "item", "id", "created_at_ms",
      "tool_result", "call_id", "call", "output", "is_error"], stringLen key ≤ 24 := by decide
  simp only [List.forall_mem_cons] at keys
  have size : (StateEvent.itemAppended "turn-1" (textOutput id text)).toJson.encodedLen ≤
      State.maxStateEventBytes := by
    have time := jsonU64_len 1
    simp only [StateEvent.toJson, StateEvent.fields, Item.toJson, textOutput, ItemKind.fields,
      List.isEmpty_nil, if_true, List.append_nil, List.cons_append, List.nil_append,
      Json.encodedLen, fieldsLen, List.length_cons, List.length_nil, Bool.false_eq_true, if_false,
      State.maxStateEventBytes, Nat.reduceAdd, Nat.reduceSub] at time ⊢
    linarith
  have shape : State.validateStateEventJsonShape
      (.itemAppended "turn-1" (textOutput id text)) = .ok () := by
    have flat : validateValueShape (.str text) = .ok () :=
      validateValueShape_eq_ok.2 ⟨Nat.zero_le _, Nat.one_le_iff_ne_zero.2 (by decide)⟩
    simp [State.validateStateEventJsonShape, State.shapedItems, checkAll, textOutput,
      State.itemPayload, State.shapeFails, flat]
  refine ⟨.itemAppended "turn-1" (textOutput id text),
    State.recoveryCharge (.itemAppended "turn-1" (textOutput id text)),
    List.mem_singleton_self _, ?_, ?_⟩
  · exact seq_eq_ok.2 ⟨by decide, seq_eq_ok.2 ⟨idValid, rfl⟩⟩
  · rw [State.encodeStateEvent, shape, ok_bind, boundedSerializedSize, if_pos size]
    rfl

theorem smallTurn_admitted [Sha256] {id : TurnId}
    (known : id = "turn-2" ∨ id = "turn-3") : ∀ item ∈ (smallTurn id).items,
      ItemAdmitted item := by
  intro item member
  rw [List.mem_singleton.1 member]
  refine ⟨.itemAppended "turn" ⟨"item-" ++ id, 1, .userMessage "hello"⟩,
    State.recoveryCharge (.itemAppended "turn" ⟨"item-" ++ id, 1, .userMessage "hello"⟩),
    List.mem_singleton_self _, ?_, ?_⟩
  · rcases known with rfl | rfl <;> rfl
  · rcases known with rfl | rfl <;> decide

theorem outputThread_admitted [Sha256] (short : stringLen text ≤ 1000002) :
    ItemsAdmitted (outputThread text).turns := by
  have ids : ∀ n < 9, State.validateStateId "item" ("output-" ++ toString n) = .ok () ∧
      stringLen ("output-" ++ toString n) ≤ 20 := by decide
  intro turn member
  simp only [outputThread, List.mem_cons, List.not_mem_nil, or_false] at member
  rcases member with rfl | rfl | rfl
  · intro item among
    obtain ⟨n, few, rfl⟩ := List.mem_map.1 among
    obtain ⟨idValid, idShort⟩ := ids n (List.mem_range.1 few)
    exact textOutput_admitted idValid idShort short
  · exact smallTurn_admitted (.inl rfl)
  · exact smallTurn_admitted (.inr rfl)

theorem valuesLen_ge {values : List Json} {n : Nat} (long : ∀ value ∈ values, n ≤ value.encodedLen) :
    values.length * n ≤ valuesLen values := by
  induction values with
  | nil => simp
  | cons value values ih =>
    have first := long value List.mem_cons_self
    have rest := ih fun v member => long v (List.mem_cons_of_mem _ member)
    rw [List.length_cons, valuesLen, Nat.succ_mul]
    omega

theorem outputTurn_len (long : 1000002 ≤ stringLen text) :
    maxCompactionInputBytes < (compactionTurn (outputTurn text)).toJson.encodedLen := by
  have shown : modelVisibleItems (outputTurn text).items = (outputTurn text).items := rfl
  have each : ∀ value ∈ (outputTurn text).items.map Item.toJson, 1000002 ≤ value.encodedLen := by
    intro value member
    obtain ⟨item, among, rfl⟩ := List.mem_map.1 member
    obtain ⟨n, _, rfl⟩ := List.mem_map.1 among
    refine long.trans (@State.encodedLen_field _ "output" (.str text) ?_)
    simp [textOutput, ItemKind.fields]
  have list := valuesLen_ge each
  have items : (Json.arr ((outputTurn text).items.map Item.toJson)).encodedLen ≤
      (compactionTurn (outputTurn text)).toJson.encodedLen := by
    refine State.encodedLen_field "items" ?_
    rw [compactionTurn, shown]
    simp
  rw [Json.encodedLen] at items
  rw [List.length_map, show (outputTurn text).items.length = 9 from rfl] at list
  simp only [maxCompactionInputBytes]
  omega

end Huge

theorem oneTurnEngine_valid :
    validateConversationConfig oneTurnEngine.conversation = .ok () ∧
      ∀ config, oneTurnEngine.conversationCompaction = some config →
        validateCompactionConfig config = .ok () := by
  refine ⟨by decide, ?_⟩
  rintro config ⟨⟩
  decide

theorem splits_iff_older_fit_short :
    ((∀ context, @ContextEngine.compileConversation constantSha256 oneTurnEngine
        (outputThread "ok") = .ok context → ∃ older window retained,
          @ExactSplit constantSha256 oneTurnEngine (outputThread "ok") context older window
            retained) ∧
      @OnlyNewestFails constantSha256 oneTurnEngine (outputThread "ok")) ↔
    OlderTurnsFit oneTurnEngine (outputThread "ok") :=
  let _ := constantSha256
  splits_iff_older_fit oneTurnEngine (outputThread "ok") (outputThread_admitted (by decide))
    oneTurnEngine_valid.1 oneTurnEngine_valid.2

/-- Nine Tool results of one million characters in the oldest of three Turns: the Turn is
neither retained nor in the window, and the compilation fails on it. -/
theorem huge_old_turn_refused :
    @ItemsAdmitted constantSha256 (outputThread (repeated 1000000 'a')).turns ∧
      validateConversationConfig oneTurnEngine.conversation = .ok () ∧
      (∀ config, oneTurnEngine.conversationCompaction = some config →
        validateCompactionConfig config = .ok ()) ∧
      ¬ @OnlyNewestFails constantSha256 oneTurnEngine (outputThread (repeated 1000000 'a')) := by
  have length : stringLen (repeated 1000000 'a') = 1000002 := by
    rw [repeated_len (b := 97) (by decide)]
    rfl
  generalize repeated 1000000 'a' = text at length
  let _ := constantSha256
  have admitted := outputThread_admitted length.le
  refine ⟨admitted, oneTurnEngine_valid.1, oneTurnEngine_valid.2, fun onlyNewest => ?_⟩
  have fit := olderFit_of_onlyNewest (presented_of_admitted admitted) onlyNewest
  have retains : oneTurnEngine.Retains [smallTurn "turn-3"] :=
    ⟨le_rfl, ⟨_, rfl, by decide⟩, by decide⟩
  have longest : LongestSuffix oneTurnEngine.Retains
      ([outputTurn text, smallTurn "turn-2"] ++ [smallTurn "turn-3"]) [smallTurn "turn-3"] :=
    longestSuffix_of_stops (fun _ _ => ContextEngine.Retains.tail) retains
      fun _ _ _ more => by simpa [oneTurnEngine] using more.count
  have unrefused : ¬ NewestRefused oneTurnEngine ⟨"summary", 64, 1048576, 4096, 65536⟩
      (smallTurn "turn-2") [smallTurn "turn-3"] := by
    rintro (⟨room, _⟩ | ⟨room, _, _, _⟩ | large)
    · exact absurd room (by decide)
    · exact absurd room (by decide)
    · exact absurd large (by decide)
  have small := fit _ rfl [] (outputTurn text) [] (smallTurn "turn-2") [smallTurn "turn-3"] rfl
    longest unrefused ⟨by decide, fun _ => by decide⟩ (by decide)
  have huge := outputTurn_len length.ge
  omega

end YHarness.Context
