/-
# YHarness.Handoff.QueuePages -- reading a queue while others work on it

`list_queued_as` of both Human Handoff Coordinators: the queued cases of a queue after a
cursor, by priority, request time and identity (`queueKey`).  The key of a case never changes
(`cursor_stays`), so a client that follows `next_cursor` while operators create and settle
cases gets each case at most once, in the order of the queue, and every case that was queued
at each of its reads (`queue_scan`).  The map keeps cases whose time no cursor may have, and
a client that comes to one of them is refused the rest of the queue (`late_case_hides_queue`).
-/
import YHarness.Lib.Keyset
import YHarness.Handoff.Stores

namespace YHarness.Handoff

open YHarness.Lib YHarness.Kernel

set_option autoImplicit false

def maxHandoffPage : Nat := 256

structure HumanHandoffCursor where
  priority : UInt8
  requestedAtMs : UInt64
  handoffId : HumanHandoffId
  deriving DecidableEq

structure HumanHandoffPage where
  handoffs : List HumanHandoffSnapshot
  nextCursor : Option HumanHandoffCursor
  hasMore : Bool

/-- The cursor's time as the column has it. -/
def cursorTime (value : UInt64) : Except HarnessError Int :=
  if value.toNat < 2 ^ 63 then .ok value.toNat
  else .error (.humanHandoff "Human Handoff cursor time exceeds SQLite")

def validateCursor : Option HumanHandoffCursor → Except HarnessError Unit
  | none => .ok ()
  | some cursor => do
    validateIdentity "Human Handoff cursor" cursor.handoffId
    let _ ← cursorTime cursor.requestedAtMs
    .ok ()

def validateList (queue : String) (after : Option HumanHandoffCursor) (limit : Nat)
    (authority : AuthorityContext) : Except HarnessError Unit := do
  authority.validateCurrent "Human Handoff list authority"
  validateApplicationTime (after.elim 1 (·.requestedAtMs))
  validateCapabilityName "Human Handoff queue" queue
  validateCursor after
  rejectIf (!(decide (1 ≤ limit) && decide (limit ≤ maxHandoffPage)))
    (.humanHandoff s!"Human Handoff page limit must be 1-{maxHandoffPage}")

def comesAfter (snapshot : HumanHandoffSnapshot) (cursor : HumanHandoffCursor) : Bool :=
  decide (snapshot.handoff.priority < cursor.priority) ||
    (snapshot.handoff.priority == cursor.priority &&
      (decide (cursor.requestedAtMs < snapshot.handoff.requestedAtMs) ||
        (snapshot.handoff.requestedAtMs == cursor.requestedAtMs &&
          decide (cursor.handoffId < snapshot.id))))

def queueOrder (left right : HumanHandoffSnapshot) : Ordering :=
  (compare right.handoff.priority left.handoff.priority).then
    ((compare left.handoff.requestedAtMs right.handoff.requestedAtMs).then
      (compare left.id right.id))

def HumanHandoffSnapshot.cursor (snapshot : HumanHandoffSnapshot) : HumanHandoffCursor :=
  ⟨snapshot.handoff.priority, snapshot.handoff.requestedAtMs, snapshot.id⟩

def pageFromCandidates (candidates : List HumanHandoffSnapshot) (limit : Nat) : HumanHandoffPage where
  handoffs := candidates.take limit
  nextCursor := (candidates.take limit).getLast?.map HumanHandoffSnapshot.cursor
  hasMore := decide (limit < candidates.length)

/-- The cases that a listing selects in the map. -/
def HumanHandoffSnapshot.selected (tenant queue : String) (after : Option HumanHandoffCursor)
    (snapshot : HumanHandoffSnapshot) : Bool :=
  tenantStorageKey snapshot.tenantId == tenant && snapshot.handoff.queue == queue &&
    snapshot.handoff.status == .queued && after.all (comesAfter snapshot)

def MemoryHumanHandoffCoordinator.listQueuedAs (store : MemoryHumanHandoffCoordinator)
    (queue : String) (after : Option HumanHandoffCursor) (limit : Nat)
    (authority : AuthorityContext) : Except HarnessError HumanHandoffPage := do
  validateList queue after limit authority
  let candidates := (OrdMap.values store.handoffs).filter
    (HumanHandoffSnapshot.selected (tenantStorageKey authority.tenantId) queue after)
  .ok (pageFromCandidates (candidates.mergeSort fun left right => (queueOrder left right).isLE)
    limit)

/-- The cursor's columns. -/
def HumanHandoffCursor.columns (cursor : HumanHandoffCursor) :
    Except HarnessError (Int × Int × String) := do
  let requestedAtMs ← cursorTime cursor.requestedAtMs
  .ok (cursor.priority.toNat, requestedAtMs, cursor.handoffId)

/-- The `WHERE` of the listing. -/
def selectedRow (tenant queue : String) (after : Option (Int × Int × String))
    (entry : StoreKey × HumanHandoffRow) : Bool :=
  entry.1.tenant == tenant && entry.2.queue == queue && entry.2.status == "queued" &&
    after.all fun cursor =>
      decide (entry.2.priority < cursor.1) ||
        (entry.2.priority == cursor.1 && decide (cursor.2.1 < entry.2.requestedAtMs)) ||
        (entry.2.priority == cursor.1 && entry.2.requestedAtMs == cursor.2.1 &&
          decide (cursor.2.2 < entry.1.id))

/-- The `ORDER BY` of the listing. -/
def rowOrder (left right : StoreKey × HumanHandoffRow) : Ordering :=
  (compare right.2.priority left.2.priority).then
    ((compare left.2.requestedAtMs right.2.requestedAtMs).then (compare left.1.id right.1.id))

/-- The bounds of the texts of one row. -/
def boundedRow (entry : StoreKey × HumanHandoffRow) : Except HarnessError Unit := do
  boundedTextColumn "Human Handoff identity" maxHandoffIdentityBytes entry.1.id.utf8ByteSize
  boundedTextColumn "Human Handoff queue" maxHandoffQueueBytes entry.2.queue.utf8ByteSize
  boundedTextColumn "Human Handoff status" maxHandoffStatusBytes entry.2.status.utf8ByteSize
  boundedTextColumn "Human Handoff" maxHandoffJsonBytes
    entry.2.handoff.uncharged.toJson.encodedLen

def SqliteHumanHandoffCoordinator.listQueuedAs [Sha256] (store : SqliteHumanHandoffCoordinator)
    (queue : String) (after : Option HumanHandoffCursor) (limit : Nat)
    (authority : AuthorityContext) : Except HarnessError HumanHandoffPage := do
  validateList queue after limit authority
  let cursor ← after.mapM HumanHandoffCursor.columns
  let selected := store.handoffs.toList.filter
    (selectedRow (tenantStorageKey authority.tenantId) queue cursor)
  let rows := (selected.mergeSort fun left right => (rowOrder left right).isLE).take (limit + 1)
  let _ ← rows.mapM boundedRow
  let snapshots ← rows.mapM fun entry => decodeSnapshot entry.1.id authority.tenantId entry.2
  .ok (pageFromCandidates snapshots limit)

/-! ## The order of a queue -/

/-- The key that falls along a queue. -/
def HumanHandoffCursor.key (cursor : HumanHandoffCursor) : ℕ ×ₗ ℕᵒᵈ ×ₗ Stringᵒᵈ :=
  toLex (cursor.priority.toNat,
    toLex (OrderDual.toDual cursor.requestedAtMs.toNat, OrderDual.toDual cursor.handoffId))

def queueKey (snapshot : HumanHandoffSnapshot) : ℕ ×ₗ ℕᵒᵈ ×ₗ Stringᵒᵈ :=
  snapshot.cursor.key

theorem queueKey_id {left right : HumanHandoffSnapshot} (same : queueKey left = queueKey right) :
    left.id = right.id :=
  congrArg (fun key : ℕ ×ₗ ℕᵒᵈ ×ₗ Stringᵒᵈ => OrderDual.ofDual (ofLex (ofLex key).2).2) same

theorem compare_priority (left right : UInt8) :
    compare left right = compare left.toNat right.toNat := by
  simp only [compare, compareOfLessAndEq, UInt8.lt_iff_toNat_lt, ← UInt8.toNat_inj]

theorem compare_time (left right : UInt64) :
    compare left right = compare left.toNat right.toNat := by
  simp only [compare, compareOfLessAndEq, UInt64.lt_iff_toNat_lt, ← UInt64.toNat_inj]

/-- The cursor comparison is the order of the keys. -/
theorem comesAfter_iff (snapshot : HumanHandoffSnapshot) (cursor : HumanHandoffCursor) :
    comesAfter snapshot cursor = true ↔ queueKey snapshot < cursor.key := by
  simp only [comesAfter, queueKey, HumanHandoffCursor.key, HumanHandoffSnapshot.cursor,
    Prod.Lex.toLex_lt_toLex, OrderDual.toDual_lt_toDual, OrderDual.toDual_inj, UInt64.toNat_inj,
    UInt8.toNat_inj, ← UInt8.lt_iff_toNat_lt, ← UInt64.lt_iff_toNat_lt, Bool.or_eq_true,
    Bool.and_eq_true, decide_eq_true_eq, beq_iff_eq]

/-- The comparison of the sort is the order of the keys. -/
theorem queueOrder_isLE (left right : HumanHandoffSnapshot) :
    (queueOrder left right).isLE = true ↔ queueKey right ≤ queueKey left := by
  simp only [queueOrder, compare_priority, compare_time, Ordering.isLE_then_iff_or,
    compare_lt_iff_lt, compare_eq_iff_eq, queueKey, HumanHandoffCursor.key,
    HumanHandoffSnapshot.cursor, Prod.Lex.toLex_le_toLex, OrderDual.toDual_le_toDual,
    OrderDual.toDual_lt_toDual, OrderDual.toDual_inj]
  have by_id : (compare left.id right.id).isLE = true ↔ left.id ≤ right.id := by
    rw [Ordering.isLE_iff_ne_gt, compare_gt_iff_gt, not_lt]
  rw [by_id]
  refine or_congr_right (and_congr_right fun _ => or_congr_right ?_)
  rw [eq_comm]

/-! ## A page of the map -/

/-- A queued case of a tenant's queue. -/
def QueuedIn (held : StoreKey → Option HumanHandoffSnapshot) (tenant queue : String)
    (snapshot : HumanHandoffSnapshot) : Prop :=
  held ⟨tenant, snapshot.id⟩ = some snapshot ∧ snapshot.handoff.queue = queue ∧
    snapshot.handoff.status = .queued

theorem selected_iff {tenant queue : String} {after : Option HumanHandoffCursor}
    {snapshot : HumanHandoffSnapshot} :
    snapshot.selected tenant queue after = true ↔
      tenantStorageKey snapshot.tenantId = tenant ∧ snapshot.handoff.queue = queue ∧
        snapshot.handoff.status = .queued ∧
          ∀ bound, after.map HumanHandoffCursor.key = some bound → queueKey snapshot < bound := by
  rw [HumanHandoffSnapshot.selected, Bool.and_eq_true, Bool.and_eq_true, Bool.and_eq_true,
    beq_iff_eq, beq_iff_eq, beq_iff_eq, and_assoc, and_assoc]
  refine and_congr_right fun _ => and_congr_right fun _ => and_congr_right fun _ => ?_
  cases after with
  | none => simp
  | some cursor => simp [comesAfter_iff]

section Paths

variable [Sha256] {held : StoreKey → Option HumanHandoffSnapshot}

variable {key : StoreKey} {snapshot : HumanHandoffSnapshot}

theorem key_of_selected {tenant queue : String} {after : Option HumanHandoffCursor}
    (sound : snapshot.Sound key) (selected : snapshot.selected tenant queue after = true) :
    key = ⟨tenant, snapshot.id⟩ := by
  rw [← sound.key, ← (selected_iff.1 selected).1]
  rfl

namespace MemoryHumanHandoffCoordinator

variable {store : MemoryHumanHandoffCoordinator}

/-- No two selected cases have the same key. -/
theorem selected_nodup (shows : Shows held store)
    (sound : ∀ key snapshot, held key = some snapshot → snapshot.Sound key)
    (tenant queue : String) (after : Option HumanHandoffCursor) :
    (((OrdMap.values store.handoffs).filter
      (HumanHandoffSnapshot.selected tenant queue after)).map queueKey).Nodup := by
  rw [OrdMap.values, List.filter_map, List.map_map]
  refine ((OrdMap.nodup_toList _).filter _).map_on fun left inLeft right inRight same => ?_
  obtain ⟨leftMember, leftSelected⟩ := List.mem_filter.1 inLeft
  obtain ⟨rightMember, rightSelected⟩ := List.mem_filter.1 inRight
  have leftFound := (shows _).symm.trans (OrdMap.mem_toList.1 leftMember)
  have rightFound := (shows _).symm.trans (OrdMap.mem_toList.1 rightMember)
  have keys : left.1 = right.1 := by
    rw [key_of_selected (sound _ _ leftFound) leftSelected,
      key_of_selected (sound _ _ rightFound) rightSelected, queueKey_id same]
  rw [keys, rightFound] at leftFound
  exact Prod.ext keys (Option.some.inj leftFound).symm

/-- **What the map lists** are the queued cases below the cursor, in falling order. -/
theorem candidates (shows : Shows held store)
    (sound : ∀ key snapshot, held key = some snapshot → snapshot.Sound key)
    (tenant queue : String) (after : Option HumanHandoffCursor) :
    Candidates queueKey (QueuedIn held tenant queue) (after.map HumanHandoffCursor.key)
      (((OrdMap.values store.handoffs).filter
        (HumanHandoffSnapshot.selected tenant queue after)).mergeSort
          fun left right => (queueOrder left right).isLE) := by
  constructor
  · have sorted := @List.pairwise_mergeSort _ (fun left right => (queueOrder left right).isLE)
      (fun a b c first second => (queueOrder_isLE a c).2
        (((queueOrder_isLE b c).1 second).trans ((queueOrder_isLE a b).1 first)))
      (fun a b => by
        rw [Bool.or_eq_true, queueOrder_isLE, queueOrder_isLE]
        exact le_total _ _)
      ((OrdMap.values store.handoffs).filter (HumanHandoffSnapshot.selected tenant queue after))
    have distinct := ((List.mergeSort_perm _ fun left right =>
      (queueOrder left right).isLE).map queueKey).nodup_iff.2
        (selected_nodup shows sound tenant queue after)
    refine (sorted.and (List.pairwise_map.1 distinct)).imp ?_
    rintro a b ⟨before, apart⟩
    exact lt_of_le_of_ne ((queueOrder_isLE a b).1 before) (Ne.symm apart)
  · intro x
    rw [List.mem_mergeSort, List.mem_filter, OrdMap.mem_values]
    constructor
    · rintro ⟨⟨key, found⟩, selected⟩
      rw [shows] at found
      obtain ⟨_, inQueue, queued, under⟩ := selected_iff.1 selected
      rw [key_of_selected (sound key x found) selected] at found
      exact ⟨⟨found, inQueue, queued⟩, under⟩
    · rintro ⟨⟨found, inQueue, queued⟩, under⟩
      refine ⟨⟨_, (shows _).trans found⟩, selected_iff.2 ⟨?_, inQueue, queued, under⟩⟩
      exact congrArg StoreKey.tenant (sound _ x found).key

end MemoryHumanHandoffCoordinator

/-! ## The table lists what the map does -/

omit [Sha256] in
theorem mapM_map_eq_ok {α β γ : Type} {f : β → Except HarnessError γ} {g : α → β} {h : α → γ}
    {xs : List α} (each : ∀ x ∈ xs, f (g x) = .ok (h x)) : (xs.map g).mapM f = .ok (xs.map h) := by
  rw [mapM_eq_ok, List.forall₂_map_left_iff, List.forall₂_map_right_iff, List.forall₂_same]
  exact each

omit [Sha256] in
/-- One row more than the page is enough. -/
theorem pageFromCandidates_take (candidates : List HumanHandoffSnapshot) (limit : Nat) :
    pageFromCandidates (candidates.take (limit + 1)) limit = pageFromCandidates candidates limit := by
  have front : (candidates.take (limit + 1)).take limit = candidates.take limit := by
    rw [List.take_take, Nat.min_eq_left (Nat.le_succ limit)]
  have longer : limit < (candidates.take (limit + 1)).length ↔ limit < candidates.length := by
    rw [List.length_take]
    omega
  rw [pageFromCandidates, pageFromCandidates, front, decide_eq_decide.2 longer]

omit [Sha256] in
theorem cursorTime_eq_ok {value : UInt64} {column : Int} :
    cursorTime value = .ok column ↔ value.toNat < 2 ^ 63 ∧ column = value.toNat := by
  unfold cursorTime
  split
  · rename_i small
    rw [ok_eq_ok, eq_comm]
    exact ⟨fun same => ⟨small, same⟩, fun both => both.2⟩
  · rename_i large
    exact ⟨nofun, fun both => absurd both.1 large⟩

omit [Sha256] in
/-- A listing that is admitted has columns for its cursor. -/
theorem columns_of_validateList {queue : String} {after : Option HumanHandoffCursor} {limit : Nat}
    {authority : AuthorityContext} (valid : validateList queue after limit authority = .ok ()) :
    after.mapM HumanHandoffCursor.columns = .ok (after.map fun cursor =>
      (cursor.priority.toNat, cursor.requestedAtMs.toNat, cursor.handoffId)) := by
  iterate 3 replace valid := rest_ok valid
  obtain ⟨checked, _⟩ := seq_eq_ok.1 valid
  cases after with
  | none => rfl
  | some cursor =>
    replace checked := rest_ok checked
    obtain ⟨column, timely, _⟩ := bind_eq_ok.1 checked
    obtain ⟨small, rfl⟩ := cursorTime_eq_ok.1 timely
    have columns : cursor.columns =
        .ok (cursor.priority.toNat, cursor.requestedAtMs.toNat, cursor.handoffId) :=
      bind_eq_ok.2 ⟨_, timely, rfl⟩
    show (cursor.columns >>= _) = _
    rw [columns]
    rfl

namespace SqliteHumanHandoffCoordinator

variable {store : SqliteHumanHandoffCoordinator} {memory : MemoryHumanHandoffCoordinator}

/-- The entry of a case in the table. -/
def entryOf (entry : StoreKey × HumanHandoffSnapshot) : StoreKey × HumanHandoffRow :=
  (entry.1, entry.2.row)

omit [Sha256] in
theorem toList_eq (shows : Shows held store)
    (held_memory : MemoryHumanHandoffCoordinator.Shows held memory) :
    store.handoffs.toList = memory.handoffs.toList.map entryOf := by
  have mapped : store.handoffs = memory.handoffs.map fun _ snapshot => snapshot.row := by
    refine Std.ExtTreeMap.ext_getElem? fun key => ?_
    rw [shows.rows, Std.ExtTreeMap.getElem?_map, held_memory]
  rw [mapped, Std.ExtTreeMap.toList_map]
  rfl

omit [Sha256] in
theorem statusName_queued {status : HumanHandoffStatus} :
    statusName status = "queued" ↔ status = .queued := by
  cases status <;> simp [statusName]

variable {snapshot : HumanHandoffSnapshot}

theorem selectedRow_entryOf {key : StoreKey} (sound : snapshot.Sound key) (tenant queue : String)
    (after : Option HumanHandoffCursor) :
    selectedRow tenant queue (after.map fun cursor =>
        (cursor.priority.toNat, cursor.requestedAtMs.toNat, cursor.handoffId))
      (entryOf (key, snapshot)) = snapshot.selected tenant queue after := by
  obtain rfl := sound.key
  rw [Bool.eq_iff_iff]
  cases after with
  | none =>
    simp [selectedRow, entryOf, HumanHandoffSnapshot.selected, HumanHandoffSnapshot.row,
      storageKey, statusName_queued]
  | some cursor =>
    simp [selectedRow, entryOf, HumanHandoffSnapshot.selected, HumanHandoffSnapshot.row,
      storageKey, statusName_queued, comesAfter, UInt8.lt_iff_toNat_lt,
      UInt64.lt_iff_toNat_lt, ← UInt8.toNat_inj, ← UInt64.toNat_inj]
    intro _ _ _
    rw [and_or_left, or_assoc, and_assoc]

theorem rowOrder_entryOf {left right : StoreKey × HumanHandoffSnapshot}
    (leftSound : left.2.Sound left.1) (rightSound : right.2.Sound right.1) :
    rowOrder (entryOf left) (entryOf right) = queueOrder left.2 right.2 := by
  have column : ∀ a b : ℕ, compare (a : ℤ) (b : ℤ) = compare a b := by
    intro a b
    simp only [compare, compareOfLessAndEq, Nat.cast_lt, Nat.cast_inj]
  rw [rowOrder, queueOrder, compare_priority, compare_time, ← column, ← column,
    show left.2.id = left.1.id from congrArg StoreKey.id leftSound.key,
    show right.2.id = right.1.id from congrArg StoreKey.id rightSound.key]
  rfl

/-- A row of the listing reads back as its case. -/
theorem boundedRow_entryOf {key : StoreKey} (sound : snapshot.Sound key)
    (named : validateIdentity "Human Handoff" key.id = .ok ()) :
    boundedRow (entryOf (key, snapshot)) = .ok () := by
  obtain ⟨_, checked⟩ := seq_eq_ok.1 sound.reachable.valid
  obtain ⟨queue, _⟩ := seq_eq_ok.1 checked
  rw [validateIdentity, rejectIf_eq_ok, Bool.or_eq_false_iff, Bool.or_eq_false_iff,
    decide_eq_false_iff_not, not_lt] at named
  refine seq_eq_ok.2 ⟨rejectIf_fits named.1.2, ?_⟩
  refine seq_eq_ok.2 ⟨rejectIf_fits (queue_size queue), ?_⟩
  refine seq_eq_ok.2 ⟨rejectIf_fits (statusName_size _), ?_⟩
  exact rejectIf_fits sound.reachable.charged_fits.2

/-- The entries that a listing selects, in its order. -/
def listed (memory : MemoryHumanHandoffCoordinator) (tenant queue : String)
    (after : Option HumanHandoffCursor) : List (StoreKey × HumanHandoffSnapshot) :=
  (memory.handoffs.toList.filter fun entry => entry.2.selected tenant queue after).mergeSort
    fun left right => (queueOrder left.2 right.2).isLE

omit [Sha256] in
theorem candidates_eq (memory : MemoryHumanHandoffCoordinator) (tenant queue : String)
    (after : Option HumanHandoffCursor) :
    (((OrdMap.values memory.handoffs).filter (HumanHandoffSnapshot.selected tenant queue
      after)).mergeSort fun left right => (queueOrder left right).isLE) =
        (listed memory tenant queue after).map Prod.snd := by
  rw [OrdMap.values, List.filter_map, listed]
  exact (List.map_mergeSort (f := Prod.snd) fun _ _ _ _ => rfl).symm

omit [Sha256] in
theorem held_of_mem_listed {tenant queue : String} {after : Option HumanHandoffCursor}
    (held_memory : MemoryHumanHandoffCoordinator.Shows held memory)
    {entry : StoreKey × HumanHandoffSnapshot} (member : entry ∈ listed memory tenant queue after) :
    held entry.1 = some entry.2 ∧ entry.2.selected tenant queue after = true := by
  obtain ⟨member, selected⟩ := List.mem_filter.1 (List.mem_mergeSort.1 member)
  exact ⟨(held_memory _).symm.trans (OrdMap.mem_toList.1 member), selected⟩

theorem rows_eq (shows : Shows held store)
    (held_memory : MemoryHumanHandoffCoordinator.Shows held memory)
    (sound : ∀ key snapshot, held key = some snapshot → snapshot.Sound key)
    (tenant queue : String) (after : Option HumanHandoffCursor) :
    ((store.handoffs.toList.filter (selectedRow tenant queue (after.map fun cursor =>
        (cursor.priority.toNat, cursor.requestedAtMs.toNat, cursor.handoffId)))).mergeSort
          fun left right => (rowOrder left right).isLE) =
      (listed memory tenant queue after).map entryOf := by
  have found : ∀ entry ∈ memory.handoffs.toList, entry.2.Sound entry.1 := by
    intro entry member
    exact sound _ _ ((held_memory _).symm.trans (OrdMap.mem_toList.1 member))
  have picked := List.filter_congr fun entry member =>
    selectedRow_entryOf (found entry member) tenant queue after
  rw [toList_eq shows held_memory, List.filter_map, Function.comp_def, picked]
  refine (List.map_mergeSort fun left inLeft right inRight => ?_).symm
  rw [rowOrder_entryOf (found left (List.mem_of_mem_filter inLeft))
    (found right (List.mem_of_mem_filter inRight))]

/-- **The table lists what the map of the same cases does.** -/
theorem listQueuedAs_eq (shows : Shows held store)
    (held_memory : MemoryHumanHandoffCoordinator.Shows held memory)
    (sound : ∀ key snapshot, held key = some snapshot → snapshot.Sound key)
    (named : ∀ key snapshot, held key = some snapshot →
      validateIdentity "Human Handoff" key.id = .ok ())
    (queue : String) (after : Option HumanHandoffCursor) (limit : Nat)
    (authority : AuthorityContext) :
    store.listQueuedAs queue after limit authority =
      memory.listQueuedAs queue after limit authority := by
  rw [listQueuedAs, MemoryHumanHandoffCoordinator.listQueuedAs]
  cases valid : validateList queue after limit authority with
  | error e => rfl
  | ok _ =>
    have tenant : validateTenant authority.tenantId = .ok () :=
      (seq_eq_ok.1 (seq_eq_ok.1 valid).1).2
    simp only [ok_bind, columns_of_validateList valid, candidates_eq,
      rows_eq shows held_memory sound, ← List.map_take]
    obtain ⟨page, cut⟩ : ∃ page, page = (listed memory (tenantStorageKey authority.tenantId)
      queue after).take (limit + 1) := ⟨_, rfl⟩
    have inside : ∀ entry ∈ page, _ := fun entry member =>
      held_of_mem_listed held_memory (List.mem_of_mem_take (cut ▸ member))
    rw [← cut]
    have bounded : (page.map entryOf).mapM boundedRow = .ok (page.map fun _ => ()) := by
      refine mapM_map_eq_ok fun entry member => ?_
      have here := (inside entry member).1
      exact boundedRow_entryOf (sound _ _ here) (named _ _ here)
    have decoded : (page.map entryOf).mapM (fun entry =>
        decodeSnapshot entry.1.id authority.tenantId entry.2) = .ok (page.map Prod.snd) := by
      refine mapM_map_eq_ok fun entry member => ?_
      obtain ⟨here, selected⟩ := inside entry member
      obtain ⟨key, snapshot⟩ := entry
      dsimp only at here selected
      obtain rfl := key_of_selected (sound _ _ here) selected
      have stands : snapshot.Sound (storageKey snapshot.id authority.tenantId) := sound _ _ here
      exact stands.read tenant (shows.timely _ _ here)
    rw [bounded, ok_bind, decoded, ok_bind, cut, List.map_take, pageFromCandidates_take]

end SqliteHumanHandoffCoordinator

/-! ## Cases keep their place -/

/-- The place of a case in its queue is fixed by its creation. -/
theorem same_place {left right : HumanHandoffSnapshot} (leftSound : left.Sound key)
    (rightSound : right.Sound key) {t : HumanHandoffTransition}
    (leftFirst : left.handoff.transitions.head? = some t)
    (rightFirst : right.handoff.transitions.head? = some t) : left.cursor = right.cursor := by
  obtain ⟨u, _, leftParts, _, leftCreation⟩ := leftSound.reachable.replays.creation
  obtain ⟨v, _, rightParts, _, rightCreation⟩ := rightSound.reachable.replays.creation
  rw [leftParts, List.head?_cons, Option.some.injEq] at leftFirst
  rw [rightParts, List.head?_cons, Option.some.injEq] at rightFirst
  subst leftFirst rightFirst
  have ids : left.id = right.id :=
    congrArg StoreKey.id (leftSound.key.trans rightSound.key.symm)
  have kinds := leftCreation.kind.symm.trans rightCreation.kind
  rw [HumanHandoffTransitionKind.created.injEq] at kinds
  have times : left.handoff.requestedAtMs = right.handoff.requestedAtMs :=
    leftCreation.time.trans rightCreation.time.symm
  have priorities : left.handoff.priority = right.handoff.priority := kinds.2.2.2
  rw [HumanHandoffSnapshot.cursor, HumanHandoffSnapshot.cursor, ids, times, priorities]

/-- **The key of a case never changes**, whatever calls come later. -/
theorem cursor_stays (room : UInt64 → Except HarnessError Unit) (calls later : List HandoffCall)
    (found : handoffAggregates.heldAfter room calls key = some snapshot) :
    ∃ current, handoffAggregates.heldAfter room (calls ++ later) key = some current ∧
      current.cursor = snapshot.cursor := by
  have sound := handoffLaws.good_after room calls key snapshot found
  obtain ⟨t, rest, parts, _, _⟩ := sound.reachable.replays.creation
  have first : snapshot.handoff.transitions.head? = some t := by
    rw [parts, List.head?_cons]
  have kept : ∀ k p next entry, HumanHandoffSnapshot.Sound k p →
      handoffAggregates.Extends p next entry → p.handoff.transitions.head? = some t →
        next.handoff.transitions.head? = some t := by
    intro k p next entry _ longer begins
    rw [show next.handoff.transitions = p.handoff.transitions ++ [entry] from longer,
      List.head?_append, begins]
    rfl
  obtain ⟨current, later_, begins⟩ := handoffLaws.stays room kept calls later found first
  exact ⟨current, later_,
    same_place (handoffLaws.good_after room _ _ _ later_) sound begins first⟩

/-- The identity of every case is well formed. -/
theorem named_after (room : UInt64 → Except HarnessError Unit) (calls : List HandoffCall)
    (key : StoreKey) (snapshot : HumanHandoffSnapshot)
    (found : handoffAggregates.heldAfter room calls key = some snapshot) :
    validateIdentity "Human Handoff" key.id = .ok () := by
  obtain ⟨handoffId, caller, rfl, access⟩ := handoffLaws.accessed calls found
  exact (seq_eq_ok.1 access).2

/-! ## One client -/

/-- What a client may ask of a store after calls. -/
structure QueueStore where
  load : List HandoffCall → HumanHandoffId → Except HarnessError (Option HumanHandoffSnapshot)
  list : List HandoffCall → Option HumanHandoffCursor → Nat → Except HarnessError HumanHandoffPage

/-- A client follows `next_cursor` until `has_more` is false, with any limits; between two
reads operators make calls.  Each read is named by the calls before it. -/
inductive QueueScan
    (list : List HandoffCall → Option HumanHandoffCursor → Nat → Except HarnessError HumanHandoffPage) :
    Option HumanHandoffCursor → List (List HandoffCall) → List HumanHandoffSnapshot → Prop
  | last {after : Option HumanHandoffCursor} {calls : List HandoffCall} {limit : Nat}
      {page : HumanHandoffPage} (read : list calls after limit = .ok page)
      (done : page.hasMore = false) : QueueScan list after [calls] page.handoffs
  | more {after : Option HumanHandoffCursor} {calls between : List HandoffCall} {limit : Nat}
      {page : HumanHandoffPage} {reads : List (List HandoffCall)} {seen : List HumanHandoffSnapshot}
      (read : list calls after limit = .ok page) (more : page.hasMore = true)
      (later : QueueScan list page.nextCursor ((calls ++ between) :: reads) seen) :
      QueueScan list after (calls :: (calls ++ between) :: reads) (page.handoffs ++ seen)

/-- Priority descending, request time ascending, identity ascending. -/
def QueueBefore (left right : HumanHandoffSnapshot) : Prop :=
  right.handoff.priority < left.handoff.priority ∨
    right.handoff.priority = left.handoff.priority ∧
      (left.handoff.requestedAtMs < right.handoff.requestedAtMs ∨
        right.handoff.requestedAtMs = left.handoff.requestedAtMs ∧ left.id < right.id)

/-- A store has a case queued after calls. -/
def QueueStore.Queued (store : QueueStore) (queue : String) (calls : List HandoffCall)
    (snapshot : HumanHandoffSnapshot) : Prop :=
  store.load calls snapshot.id = .ok (some snapshot) ∧ snapshot.handoff.queue = queue ∧
    snapshot.handoff.status = .queued

/-- What a client has seen at its reads: queued cases in the order of the queue, none of them
twice, and every case that was queued at each read. -/
structure QueueStore.SeesQueue (store : QueueStore) (queue : String)
    (reads : List (List HandoffCall)) (seen : List HumanHandoffSnapshot) : Prop where
  ordered : seen.Pairwise QueueBefore
  once : (seen.map (·.id)).Nodup
  queued : ∀ snapshot ∈ seen, ∃ calls ∈ reads, store.Queued queue calls snapshot
  every : ∀ handoffId, (∀ calls ∈ reads, ∃ snapshot, snapshot.id = handoffId ∧
    store.Queued queue calls snapshot) → ∃ snapshot ∈ seen, snapshot.id = handoffId

/-- A store lists the records of a ledger. -/
structure QueueStore.Lists (store : QueueStore) (room : UInt64 → Except HarnessError Unit)
    (queue : String) (authority : AuthorityContext) : Prop where
  load : ∀ calls handoffId, validateTenant authority.tenantId = .ok () →
    store.load calls handoffId =
      .ok (handoffAggregates.heldAfter room calls (storageKey handoffId authority.tenantId))
  list : ∀ calls after limit, ∃ xs, Candidates queueKey
      (QueuedIn (handoffAggregates.heldAfter room calls) (tenantStorageKey authority.tenantId) queue)
      (after.map HumanHandoffCursor.key) xs ∧
    store.list calls after limit = (do
      validateList queue after limit authority
      .ok (pageFromCandidates xs limit))

omit [Sha256] in
theorem queueBefore_iff (left right : HumanHandoffSnapshot) :
    QueueBefore left right ↔ queueKey right < queueKey left := by
  rw [show queueKey left = left.cursor.key from rfl, ← comesAfter_iff]
  show _ ↔ comesAfter right ⟨left.handoff.priority, left.handoff.requestedAtMs, left.id⟩ = true
  simp only [QueueBefore, comesAfter, Bool.or_eq_true, Bool.and_eq_true, decide_eq_true_eq,
    beq_iff_eq]

omit [Sha256] in
/-- All reads come before the last one. -/
theorem QueueScan.latest
    {list : List HandoffCall → Option HumanHandoffCursor → Nat →
      Except HarnessError HumanHandoffPage}
    {after : Option HumanHandoffCursor} {reads : List (List HandoffCall)}
    {seen : List HumanHandoffSnapshot} (scan : QueueScan list after reads seen) :
    ∃ latest, ∀ calls ∈ reads, ∃ later, latest = calls ++ later := by
  induction scan with
  | @last after calls limit page _ _ =>
    refine ⟨calls, fun read member => ⟨[], ?_⟩⟩
    rw [List.mem_singleton.1 member, List.append_nil]
  | @more after calls between limit page reads seen _ _ _ ih =>
    obtain ⟨latest, extends_⟩ := ih
    refine ⟨latest, fun read member => ?_⟩
    rcases List.mem_cons.1 member with rfl | later
    · obtain ⟨rest, parts⟩ := extends_ _ List.mem_cons_self
      exact ⟨between ++ rest, by rw [parts, List.append_assoc]⟩
    · exact extends_ read later

namespace QueueStore

variable {store : QueueStore} {room : UInt64 → Except HarnessError Unit} {queue : String}
  {authority : AuthorityContext} {reads : List (List HandoffCall)}
  {seen : List HumanHandoffSnapshot}

variable {calls : List HandoffCall}

/-- A page that is answered is cut from the candidates. -/
theorem Lists.page (lists : store.Lists room queue authority) {after : Option HumanHandoffCursor}
    {limit : Nat} {page : HumanHandoffPage} (read : store.list calls after limit = .ok page) :
    validateList queue after limit authority = .ok () ∧ 1 ≤ limit ∧ ∃ xs, Candidates queueKey
      (QueuedIn (handoffAggregates.heldAfter room calls) (tenantStorageKey authority.tenantId) queue)
      (after.map HumanHandoffCursor.key) xs ∧ page = pageFromCandidates xs limit := by
  obtain ⟨xs, candidates, listed⟩ := lists.list calls after limit
  rw [listed] at read
  obtain ⟨valid, cut⟩ := seq_eq_ok.1 read
  refine ⟨valid, ?_, xs, candidates, (Except.ok.inj cut).symm⟩
  iterate 3 replace valid := rest_ok valid
  obtain ⟨_, bounded⟩ := seq_eq_ok.1 valid
  rw [rejectIf_eq_ok, Bool.not_eq_false', Bool.and_eq_true, decide_eq_true_eq] at bounded
  exact bounded.1

/-- The pages of a client are those of a list that changes between them. -/
theorem Lists.scan (lists : store.Lists room queue authority) {after : Option HumanHandoffCursor}
    (scan : QueueScan store.list after reads seen) :
    Scan queueKey (fun calls => QueuedIn (handoffAggregates.heldAfter room calls)
      (tenantStorageKey authority.tenantId) queue) (after.map HumanHandoffCursor.key) reads seen := by
  induction scan with
  | last read done =>
    obtain ⟨_, _, xs, candidates, rfl⟩ := lists.page read
    have short : xs.length ≤ _ := Nat.le_of_not_lt (of_decide_eq_false done)
    rw [show (pageFromCandidates xs _).handoffs = xs from List.take_of_length_le short]
    exact .last candidates
  | @more after calls between limit page reads seen read more _ ih =>
    obtain ⟨_, positive, xs, candidates, rfl⟩ := lists.page read
    have long : limit < xs.length := of_decide_eq_true more
    obtain ⟨z, is_last⟩ : ∃ z, (xs.take limit).getLast? = some z := by
      refine Option.ne_none_iff_exists'.1 fun none => ?_
      rw [List.getLast?_eq_none_iff, ← List.length_eq_zero_iff, List.length_take] at none
      omega
    have next : (pageFromCandidates xs limit).nextCursor = some z.cursor := by
      rw [pageFromCandidates, is_last, Option.map_some]
    rw [next] at ih
    exact .more candidates is_last ih

theorem Lists.queued_iff (lists : store.Lists room queue authority)
    (tenant : validateTenant authority.tenantId = .ok ()) {snapshot : HumanHandoffSnapshot} :
    store.Queued queue calls snapshot ↔ QueuedIn (handoffAggregates.heldAfter room calls)
      (tenantStorageKey authority.tenantId) queue snapshot := by
  rw [QueueStore.Queued, lists.load calls snapshot.id tenant, ok_eq_ok]
  exact and_congr_left fun _ => eq_comm

/-- **A client sees the queue**: in order, nothing twice, and everything that stays. -/
theorem Lists.sees (lists : store.Lists room queue authority)
    (scan : QueueScan store.list none reads seen) : store.SeesQueue queue reads seen := by
  have tenant : validateTenant authority.tenantId = .ok () := by
    cases scan with
    | last read => exact (seq_eq_ok.1 (seq_eq_ok.1 (lists.page read).1).1).2
    | more read => exact (seq_eq_ok.1 (seq_eq_ok.1 (lists.page read).1).1).2
  have pages := lists.scan scan
  obtain ⟨latest, extends_⟩ := scan.latest
  -- what a case is at the end tells its key at every read
  have stays : ∀ calls ∈ reads, ∀ snapshot, QueuedIn (handoffAggregates.heldAfter room calls)
      (tenantStorageKey authority.tenantId) queue snapshot → ∃ current,
        handoffAggregates.heldAfter room latest (storageKey snapshot.id authority.tenantId) =
          some current ∧ queueKey current = queueKey snapshot := by
    intro calls member snapshot here
    obtain ⟨later, parts⟩ := extends_ calls member
    obtain ⟨current, found, same⟩ := cursor_stays room calls later here.1
    exact ⟨current, parts ▸ found, congrArg HumanHandoffCursor.key same⟩
  have distinct : (seen.map queueKey).Nodup := by
    rw [List.Nodup, List.pairwise_map]
    exact pages.descending.imp fun {a b} under => under.ne'
  constructor
  · exact pages.descending.imp fun {a b} under => (queueBefore_iff a b).2 under
  · refine distinct.of_map.map_on fun left inLeft right inRight same => ?_
    obtain ⟨⟨calls, read, here⟩, _⟩ := pages.collected left inLeft
    obtain ⟨⟨calls', read', here'⟩, _⟩ := pages.collected right inRight
    obtain ⟨current, found, key⟩ := stays calls read left here
    obtain ⟨current', found', key'⟩ := stays calls' read' right here'
    rw [same, found', Option.some.injEq] at found
    refine List.inj_on_of_nodup_map distinct inLeft inRight ?_
    rw [← key, ← found, key']
  · intro snapshot member
    obtain ⟨⟨calls, read, here⟩, _⟩ := pages.collected snapshot member
    exact ⟨calls, read, (lists.queued_iff tenant).2 here⟩
  · intro handoffId always
    obtain ⟨first, member⟩ : ∃ first, first ∈ reads := by
      cases scan with
      | last => exact ⟨_, List.mem_cons_self⟩
      | more => exact ⟨_, List.mem_cons_self⟩
    obtain ⟨snapshot, rfl, queued⟩ := always first member
    obtain ⟨current, found, key⟩ := stays first member snapshot ((lists.queued_iff tenant).1 queued)
    have shown : ∀ calls ∈ reads, ∃ x, QueuedIn (handoffAggregates.heldAfter room calls)
        (tenantStorageKey authority.tenantId) queue x ∧ queueKey x = queueKey current := by
      intro calls read
      obtain ⟨x, same, queued⟩ := always calls read
      have here := (lists.queued_iff tenant).1 queued
      obtain ⟨current', found', key'⟩ := stays calls read x here
      rw [same, found, Option.some.injEq] at found'
      exact ⟨x, here, by rw [← key', found']⟩
    obtain ⟨y, inSeen, same⟩ := pages.complete shown nofun
    exact ⟨y, inSeen, queueKey_id (same.trans key)⟩

/-- A store serves a queue to a client of a run: an admitted request is answered, a page that
is not the last one leads to a next one, with any limit and whatever calls come between, and
following the pages to the end shows the queue. -/
structure Serves (store : QueueStore) (queue : String) (authority : AuthorityContext)
    (run : List HandoffCall → Prop) : Prop where
  answers : ∀ calls after limit, validateList queue after limit authority = .ok () →
    ∃ page, store.list calls after limit = .ok page
  follows : ∀ calls after limit page, run calls → store.list calls after limit = .ok page →
    page.hasMore = true → ∃ cursor, page.nextCursor = some cursor ∧
      ∀ between limit', 1 ≤ limit' → limit' ≤ maxHandoffPage →
        ∃ next, store.list (calls ++ between) (some cursor) limit' = .ok next
  sees : ∀ reads seen, QueueScan store.list none reads seen → store.SeesQueue queue reads seen

/-- The cursor of a page is that of a case. -/
theorem Lists.nextCursor (lists : store.Lists room queue authority)
    {after : Option HumanHandoffCursor} {limit : Nat} {page : HumanHandoffPage}
    {cursor : HumanHandoffCursor} (read : store.list calls after limit = .ok page)
    (next : page.nextCursor = some cursor) : ∃ key snapshot,
      handoffAggregates.heldAfter room calls key = some snapshot ∧ snapshot.cursor = cursor := by
  obtain ⟨_, _, xs, candidates, rfl⟩ := lists.page read
  obtain ⟨z, is_last, same⟩ := Option.map_eq_some_iff.1 next
  have member := (candidates.members z).1 (List.mem_of_mem_take (List.mem_of_getLast? is_last))
  exact ⟨_, z, member.1.1, same⟩

/-- The cursor of a case is admitted where its time fits the column. -/
theorem Lists.cursor_valid (lists : store.Lists room queue authority)
    {after : Option HumanHandoffCursor} {limit : Nat} {page : HumanHandoffPage}
    {cursor : HumanHandoffCursor} (read : store.list calls after limit = .ok page)
    (next : page.nextCursor = some cursor) (timely : cursor.requestedAtMs.toNat < 2 ^ 63)
    {limit' : Nat} (positive : 1 ≤ limit') (most : limit' ≤ maxHandoffPage) :
    validateList queue (some cursor) limit' authority = .ok () := by
  obtain ⟨key, snapshot, found, rfl⟩ := lists.nextCursor read next
  have sound := handoffLaws.good_after room calls key snapshot found
  have named := named_after room calls key snapshot found
  obtain ⟨t, _, _, recorded, creation⟩ := sound.reachable.replays.creation
  have time : validateApplicationTime snapshot.handoff.requestedAtMs = .ok () := by
    rw [show snapshot.handoff.requestedAtMs = t.appliedAtMs from creation.time]
    exact recorded.time
  obtain ⟨current, valid⟩ := seq_eq_ok.1 (lists.page read).1
  replace valid := rest_ok valid
  obtain ⟨name, _⟩ := seq_eq_ok.1 valid
  refine seq_eq_ok.2 ⟨current, seq_eq_ok.2 ⟨time, seq_eq_ok.2 ⟨name, seq_eq_ok.2 ⟨?_, ?_⟩⟩⟩⟩
  · refine seq_eq_ok.2 ⟨?_, bind_eq_ok.2 ⟨_, cursorTime_eq_ok.2 ⟨timely, rfl⟩, rfl⟩⟩
    rw [show snapshot.cursor.handoffId = key.id from congrArg StoreKey.id sound.key]
    rw [validateIdentity, rejectIf_eq_ok] at named ⊢
    exact named
  · rw [rejectIf_eq_ok, decide_eq_true positive, decide_eq_true most]
    rfl

/-- A page that is not the last one has a cursor. -/
theorem Lists.hasMore (lists : store.Lists room queue authority)
    {after : Option HumanHandoffCursor} {limit : Nat} {page : HumanHandoffPage}
    (read : store.list calls after limit = .ok page) (more : page.hasMore = true) :
    ∃ cursor, page.nextCursor = some cursor := by
  obtain ⟨_, positive, xs, _, rfl⟩ := lists.page read
  have long : limit < xs.length := of_decide_eq_true more
  refine Option.ne_none_iff_exists'.1 fun none => ?_
  rw [pageFromCandidates, Option.map_eq_none_iff, List.getLast?_eq_none_iff,
    ← List.length_eq_zero_iff, List.length_take] at none
  omega

theorem Lists.serves (lists : store.Lists room queue authority) {run : List HandoffCall → Prop}
    (timely : ∀ calls key snapshot, run calls →
      handoffAggregates.heldAfter room calls key = some snapshot →
        snapshot.handoff.requestedAtMs.toNat < 2 ^ 63) :
    store.Serves queue authority run := by
  have answers : ∀ calls after limit, validateList queue after limit authority = .ok () →
      ∃ page, store.list calls after limit = .ok page := by
    intro calls after limit valid
    obtain ⟨xs, _, listed⟩ := lists.list calls after limit
    exact ⟨_, listed.trans (seq_eq_ok.2 ⟨valid, rfl⟩)⟩
  refine ⟨answers, fun calls after limit page runs read more => ?_, fun reads seen => lists.sees⟩
  obtain ⟨cursor, next⟩ := lists.hasMore read more
  obtain ⟨key, snapshot, found, same⟩ := lists.nextCursor read next
  have small : cursor.requestedAtMs.toNat < 2 ^ 63 := by
    rw [← same]
    exact timely calls key snapshot runs found
  exact ⟨cursor, next, fun between limit' positive most =>
    answers _ _ _ (lists.cursor_valid read next small positive most)⟩

end QueueStore

/-! ## The two coordinators -/

/-- The store after calls. -/
def SqliteHumanHandoffCoordinator.after (calls : List HandoffCall) :
    SqliteHumanHandoffCoordinator :=
  (attempts call empty calls).2

/-- What a client of the in-memory coordinator reads of a queue. -/
def memoryQueue (queue : String) (authority : AuthorityContext) : QueueStore where
  load calls handoffId := .ok (MemoryHumanHandoffCoordinator.after calls).handoffs[
    storageKey handoffId authority.tenantId]?
  list calls after limit :=
    (MemoryHumanHandoffCoordinator.after calls).listQueuedAs queue after limit authority

/-- What a client of the SQLite coordinator reads of a queue. -/
def sqliteQueue (queue : String) (authority : AuthorityContext) : QueueStore where
  load calls handoffId :=
    (SqliteHumanHandoffCoordinator.after calls).loadSnapshot handoffId authority.tenantId
  list calls after limit :=
    (SqliteHumanHandoffCoordinator.after calls).listQueuedAs queue after limit authority

theorem memory_lists (queue : String) (authority : AuthorityContext) :
    (memoryQueue queue authority).Lists Aggregates.anyTime queue authority where
  load calls _ _ := congrArg Except.ok (memory_implements.records calls _)
  list calls after _ := ⟨_, MemoryHumanHandoffCoordinator.candidates
    (memory_implements.records calls) (handoffLaws.good_after _ calls) _ queue after, rfl⟩

omit [Sha256] in
/-- The map of the cases that a table holds. -/
theorem SqliteHumanHandoffCoordinator.Shows.map {store : SqliteHumanHandoffCoordinator}
    (shows : SqliteHumanHandoffCoordinator.Shows held store) :
    ∃ memory, MemoryHumanHandoffCoordinator.Shows held memory := by
  refine ⟨⟨store.handoffs.filterMap fun key _ => held key⟩, fun key => ?_⟩
  rw [Std.ExtTreeMap.getElem?_filterMap', shows.rows]
  cases found : held key <;> simp

theorem sqlite_lists (queue : String) (authority : AuthorityContext) :
    (sqliteQueue queue authority).Lists sqlRoom queue authority where
  load calls handoffId tenant :=
    (sqlite_implements.records calls).loadSnapshot (handoffLaws.good_after _ calls) tenant
  list calls after limit := by
    have shows := sqlite_implements.records calls
    have sound := handoffLaws.good_after sqlRoom calls
    obtain ⟨memory, same⟩ := shows.map
    refine ⟨_, MemoryHumanHandoffCoordinator.candidates same sound _ queue after, ?_⟩
    exact SqliteHumanHandoffCoordinator.listQueuedAs_eq shows same sound
      (named_after sqlRoom calls) queue after limit authority

/-- The table and the map hold the same cases. -/
def SameCases (store : SqliteHumanHandoffCoordinator) (memory : MemoryHumanHandoffCoordinator) :
    Prop :=
  ∀ key : StoreKey, store.handoffs[key]? = memory.handoffs[key]?.map HumanHandoffSnapshot.row

/-- The ledgers of a table and a map with the same cases are the same. -/
theorem heldAfter_eq {calls calls' : List HandoffCall}
    (same : SameCases (.after calls') (.after calls)) :
    handoffAggregates.heldAfter sqlRoom calls' =
      handoffAggregates.heldAfter Aggregates.anyTime calls := by
  have shows := sqlite_implements.records calls'
  have shown := memory_implements.records calls
  funext key
  have rows := same key
  rw [show (SqliteHumanHandoffCoordinator.after calls').handoffs[key]? = _ from shows.rows key,
    show (MemoryHumanHandoffCoordinator.after calls).handoffs[key]? = _ from shown key] at rows
  cases left : handoffAggregates.heldAfter sqlRoom calls' key with
  | none =>
    rw [left, Option.map_none, eq_comm, Option.map_eq_none_iff] at rows
    exact rows.symm
  | some snapshot =>
    rw [left, Option.map_some] at rows
    obtain ⟨other, right, row⟩ := Option.map_eq_some_iff.1 rows.symm
    have sound := handoffLaws.good_after sqlRoom calls' key snapshot left
    have sound' := handoffLaws.good_after Aggregates.anyTime calls key other right
    have named := sound.key
    rw [← named] at sound sound'
    have timely := shows.timely key snapshot left
    have time : snapshot.handoff.requestedAtMs = other.handoff.requestedAtMs :=
      congrArg (fun row : HumanHandoffRow => row.handoff.requestedAtMs) row.symm
    have read := sound.read sound.tenant timely
    rw [← row, sound'.read sound.tenant (time ▸ timely)] at read
    rw [right, Except.ok.inj read]

/-- **Reading a queue while others work on it.**  A client that follows `next_cursor` comes to
the end of the table, and to the end of the map in every run whose creations the column has room
for; it sees the queue, and the same cases give the same pages. -/
theorem queue_scan (queue : String) (authority : AuthorityContext) :
    (memoryQueue queue authority).Serves queue authority Timely ∧
    (sqliteQueue queue authority).Serves queue authority (fun _ => True) ∧
    ∀ calls calls', SameCases (.after calls') (.after calls) → ∀ after limit,
      (sqliteQueue queue authority).list calls' after limit =
        (memoryQueue queue authority).list calls after limit := by
  refine ⟨?_, ?_, ?_⟩
  · exact (memory_lists queue authority).serves fun _ _ _ timely found => timely.requestedAt found
  · exact (sqlite_lists queue authority).serves fun calls key snapshot _ found =>
      (sqlite_implements.records calls).timely key snapshot found
  · intro calls calls' same after limit
    have held := heldAfter_eq same
    refine SqliteHumanHandoffCoordinator.listQueuedAs_eq (sqlite_implements.records calls') ?_
      (handoffLaws.good_after sqlRoom calls') (named_after sqlRoom calls') queue after limit
      authority
    rw [held]
    exact memory_implements.records calls

/-- Where the cases of a read already stand in the order of the queue, they are the page. -/
theorem memoryQueue_sorted (queue : String) (authority : AuthorityContext)
    (calls : List HandoffCall) (after : Option HumanHandoffCursor) (limit : Nat)
    (valid : validateList queue after limit authority = .ok ())
    (sorted : ((OrdMap.values (MemoryHumanHandoffCoordinator.after calls).handoffs).filter
      (HumanHandoffSnapshot.selected (tenantStorageKey authority.tenantId) queue after)).Pairwise
        fun left right => (queueOrder left right).isLE = true) :
    (memoryQueue queue authority).list calls after limit = .ok (pageFromCandidates
      ((OrdMap.values (MemoryHumanHandoffCoordinator.after calls).handoffs).filter
        (HumanHandoffSnapshot.selected (tenantStorageKey authority.tenantId) queue after)) limit) := by
  refine seq_eq_ok.2 ⟨valid, ?_⟩
  dsimp only
  rw [List.mergeSort_of_pairwise sorted]

end Paths

section Sample

attribute [local instance] constantSha256

open HumanHandoff in
def sampleArrival (handoffId : HumanHandoffId) (appliedAtMs : UInt64) : HandoffCall :=
  .create handoffId sampleRequest appliedAtMs (sampleAuthority "requester")

def sampleArrivals : List HandoffCall :=
  [sampleArrival "a" 10, sampleArrival "b" 20, sampleArrival "c" 30]

open HumanHandoff in
/-- A case is claimed, and one with an earlier time arrives. -/
def sampleBetween : List HandoffCall :=
  [.apply "a" 1 ⟨"take", .claim "first" 1000⟩ 40 (sampleAuthority "alice"), sampleArrival "d" 5]

abbrev sampleQueue : QueueStore :=
  memoryQueue "support.primary" (HumanHandoff.sampleAuthority "requester")

theorem sampleArrivals_timely : Timely sampleArrivals := by
  intro before c later parts handoffId request appliedAtMs authority handoff made _ _ _
  have member : c ∈ sampleArrivals := by simp [parts]
  simp only [sampleArrivals, List.mem_cons, List.not_mem_nil, or_false, made, sampleArrival,
    LedgerCall.create.injEq] at member
  obtain ⟨_, _, rfl, _⟩ | ⟨_, _, rfl, _⟩ | ⟨_, _, rfl, _⟩ := member <;> decide

/-- A client reads two pages while a case is claimed and another one arrives. -/
theorem queue_scan_sample :
    (∃ page cursor, sampleQueue.list sampleArrivals none 2 = .ok page ∧
      page.nextCursor = some cursor ∧ ∀ between limit, 1 ≤ limit → limit ≤ maxHandoffPage →
        ∃ next, sampleQueue.list (sampleArrivals ++ between) (some cursor) limit = .ok next) ∧
    ∃ seen, seen.map (·.id) = ["a", "b", "c"] ∧ sampleQueue.SeesQueue "support.primary"
      [sampleArrivals, sampleArrivals ++ sampleBetween] seen := by
  have serves := (queue_scan "support.primary" (HumanHandoff.sampleAuthority "requester")).1
  have first := memoryQueue_sorted "support.primary" (HumanHandoff.sampleAuthority "requester")
    sampleArrivals none 2 (by decide +kernel) (by decide +kernel)
  have second := memoryQueue_sorted "support.primary" (HumanHandoff.sampleAuthority "requester")
    (sampleArrivals ++ sampleBetween) (some ⟨7, 20, "b"⟩) 2 (by decide +kernel) (by decide +kernel)
  obtain ⟨cursor, next, follows⟩ :=
    serves.follows sampleArrivals none 2 _ sampleArrivals_timely first (by decide +kernel)
  have scan := QueueScan.more first (by decide +kernel) (.last second (by decide +kernel))
  exact ⟨⟨_, cursor, first, next, follows⟩, _, by decide +kernel, serves.sees _ _ scan⟩

/-- Two cases that were requested when a signed integer no longer holds the time. -/
def lateArrivals : List HandoffCall :=
  [sampleArrival "a" 9223372036854775808, sampleArrival "b" 9223372036854775809]

/-- The map lists the first of them with a cursor that no listing admits, so the client does
not come to the second one, which is queued. -/
theorem late_case_hides_queue :
    (∃ page cursor, sampleQueue.list lateArrivals none 1 = .ok page ∧ page.hasMore = true ∧
      page.nextCursor = some cursor ∧ page.handoffs.map (·.id) = ["a"] ∧
      (∀ between limit, sampleQueue.list (lateArrivals ++ between) (some cursor) limit =
        .error (.humanHandoff "Human Handoff cursor time exceeds SQLite")) ∧
      ∃ snapshot, snapshot.id = "b" ∧
        sampleQueue.Queued "support.primary" lateArrivals snapshot) ∧
    ¬ sampleQueue.Serves "support.primary" (HumanHandoff.sampleAuthority "requester")
      fun _ => True := by
  have first := memoryQueue_sorted "support.primary" (HumanHandoff.sampleAuthority "requester")
    lateArrivals none 1 (by decide +kernel) (by decide +kernel)
  generalize there : pageFromCandidates _ 1 = page at first
  have shown : page.hasMore = true ∧ page.handoffs.map (·.id) = ["a"] ∧
      page.nextCursor = some ⟨7, 9223372036854775808, "a"⟩ := by
    rw [← there]
    decide +kernel
  have refused : ∀ between limit, sampleQueue.list (lateArrivals ++ between)
      (some ⟨7, 9223372036854775808, "a"⟩) limit =
        .error (.humanHandoff "Human Handoff cursor time exceeds SQLite") := by
    intro between limit
    have invalid : validateList "support.primary" (some ⟨7, 9223372036854775808, "a"⟩) limit
        (HumanHandoff.sampleAuthority "requester") =
          .error (.humanHandoff "Human Handoff cursor time exceeds SQLite") := rfl
    show (validateList .. >>= _) = _
    rw [invalid]
    rfl
  have waits : ((MemoryHumanHandoffCoordinator.after lateArrivals).handoffs[storageKey "b"
      (some "tenant")]?).map (fun snapshot => (snapshot.id, snapshot.handoff.queue,
        snapshot.handoff.status)) = some ("b", "support.primary", .queued) := by
    decide +kernel
  obtain ⟨snapshot, found, same⟩ := Option.map_eq_some_iff.1 waits
  simp only [Prod.mk.injEq] at same
  obtain ⟨named, queue, status⟩ := same
  refine ⟨⟨page, _, first, shown.1, shown.2.2, shown.2.1, refused, snapshot, named, ?_⟩,
    fun serves => ?_⟩
  · rw [← named] at found
    exact ⟨congrArg Except.ok found, queue, status⟩
  · obtain ⟨cursor, next, follows⟩ := serves.follows lateArrivals none 1 page trivial first shown.1
    rw [shown.2.2, Option.some.injEq] at next
    obtain ⟨_, answered⟩ := follows [] 1 le_rfl (by decide)
    rw [← next, refused] at answered
    cases answered

end Sample

end YHarness.Handoff
