/-
# YHarness.Orchestration.Inbox -- the messages of a Task, read page by page

`messages_page_for` cuts a page by a count and by the bytes of its messages.  A worker asks
for what came after the last message it has, while other calls change the graph.  `Front` is
its invariant: what it has received is the front of `messages_for`, and its cursor separates
that from the rest.  The largest message that `send_message` admits fits a page
(`messageCharge_le`), so a page that was cut off is not empty and every message is received
exactly once (`inbox_exactly_once`).
-/
import YHarness.Kernel.Sizes
import YHarness.Lib.Keyset
import YHarness.Orchestration.Integrity

namespace YHarness.Orchestration

open YHarness.Lib YHarness.Kernel

set_option autoImplicit false

def maxMessagePageItems : Nat := 256
def maxMessagePageBytes : Nat := 2097152

structure TaskMessagePage where
  messages : List TaskMessage
  nextAfterSequence : Option UInt64
  hasMore : Bool

/-- The loop of `messages_page_for`, with the messages it took and their bytes. -/
def takePage (limit : Nat) : List TaskMessage → Nat → List TaskMessage →
    Except HarnessError (List TaskMessage × Bool)
  | taken, _, [] => .ok (taken, false)
  | taken, bytes, message :: rest => do
    let nextBytes ← checkedGraphChargeAdd bytes (← messageMaterializationCharge message)
    if taken.length = limit ∨ maxMessagePageBytes < nextBytes then .ok (taken, true)
    else takePage limit (taken ++ [message]) nextBytes rest

/-- What a worker has received, and the sequence it has read up to. -/
structure TaskInbox where
  received : List TaskMessage
  afterSequence : UInt64

def TaskInbox.receive (inbox : TaskInbox) (page : TaskMessagePage) : TaskInbox :=
  ⟨inbox.received ++ page.messages, page.nextAfterSequence.getD inbox.afterSequence⟩

namespace TaskGraph

def messagesFor (g : TaskGraph) (taskId : TaskId) : List TaskMessage :=
  g.messages.filter fun message => message.receiver == taskId

/-- The messages that a page is cut from. -/
def unread (g : TaskGraph) (taskId : TaskId) (afterSequence : UInt64) : List TaskMessage :=
  g.messages.filter fun message =>
    message.receiver == taskId && decide (afterSequence < message.sequence)

def messagesPageFor (g : TaskGraph) (taskId : TaskId) (afterSequence : UInt64) (limit : Nat) :
    Except HarnessError TaskMessagePage := do
  rejectIf (!g.tasks.contains taskId) (.orchestration s!"Task {taskId} does not exist")
  rejectIf (!(decide (1 ≤ limit) && decide (limit ≤ maxMessagePageItems)))
    (.orchestration "Task message page limit must be 1-256")
  let (messages, hasMore) ← takePage limit [] 0 (g.unread taskId afterSequence)
  .ok ⟨messages, messages.getLast?.map (·.sequence), hasMore⟩

/-- Message identities are no longer than `next_id` makes them. -/
def ShortIds (g : TaskGraph) : Prop :=
  ∀ message ∈ g.messages, message.id.utf8ByteSize ≤ 128

/-- A worker reads the inbox of a Task between the calls of others. -/
inductive Polls (taskId : TaskId) : TaskGraph → TaskInbox → Prop
  | start {g : TaskGraph} (reached : Reachable Fresh g) (short : g.ShortIds) :
      Polls taskId g ⟨[], 0⟩
  | call {g : TaskGraph} {inbox : TaskInbox} (polls : Polls taskId g inbox) (call : DomainCall)
      (fresh : g.Fresh call) (short : (g.after call).ShortIds) : Polls taskId (g.after call) inbox
  | page {g : TaskGraph} {inbox : TaskInbox} {limit : Nat} {page : TaskMessagePage}
      (polls : Polls taskId g inbox)
      (read : g.messagesPageFor taskId inbox.afterSequence limit = .ok page) :
      Polls taskId g (inbox.receive page)

/-! ## One page -/

/-- **The largest message fits a page.** -/
theorem messageCharge_le {message : TaskMessage} (id : message.id.utf8ByteSize ≤ 128)
    (sender : message.sender.utf8ByteSize ≤ 256) (receiver : message.receiver.utf8ByteSize ≤ 256)
    (body : checkMessageBody message.body = .ok ()) :
    messageCharge message ≤ maxMessagePageBytes := by
  have keys : ∀ key ∈ ["id", "sequence", "from", "to", "body", "created_at_ms"],
      stringLen key ≤ 16 := by decide
  simp only [List.forall_mem_cons] at keys
  simp only [checkMessageBody, rejectIf_eq_ok, Bool.or_eq_false_iff, decide_eq_false_iff_not,
    not_lt] at body
  have short : message.body.utf8ByteSize ≤ 65536 := body.2
  have idLen := stringLen_le message.id
  have senderLen := stringLen_le message.sender
  have receiverLen := stringLen_le message.receiver
  have bodyLen := stringLen_le message.body
  have sequenceLen := jsonU64_len message.sequence
  have createdLen := jsonU64_len message.createdAtMs
  simp only [messageCharge, TaskMessage.toJson, Json.encodedLen, fieldsLen, List.length_cons,
    List.length_nil, maxMessagePageBytes]
  omega

theorem Sane.messageCharge_le {g : TaskGraph} (sane : g.Sane) (short : g.ShortIds) :
    ∀ message ∈ g.messages, messageCharge message ≤ maxMessagePageBytes := by
  have named : ∀ id, g.tasks.contains id = true → id.utf8ByteSize ≤ 256 := by
    intro id known
    obtain ⟨record, found⟩ := OrdMap.contains_iff.1 known
    have valid := sane.intact.definition_valid (OrdMap.mem_values.2 ⟨id, found⟩)
    obtain ⟨named, _⟩ := seq_eq_ok.1 valid
    rw [validateTaskId, rejectIf_eq_ok, sane.intact.keyed id record found] at named
    simp only [Bool.or_eq_false_iff, decide_eq_false_iff_not, not_lt] at named
    exact named.1.2
  intro message member
  obtain ⟨sender, receiver⟩ := sane.posted.known message member
  exact TaskGraph.messageCharge_le (short message member) (named _ sender) (named _ receiver)
    (sane.posted.bodies message member)

/-- A page is a front of what is left, all of it or at least one message. -/
theorem takePage_eq {limit : Nat} {rest : List TaskMessage}
    (fit : ∀ message ∈ rest, messageCharge message ≤ maxMessagePageBytes)
    (taken : List TaskMessage) {bytes : Nat} (within : bytes ≤ maxMessagePageBytes) :
    ∃ k, takePage limit taken bytes rest =
        .ok (taken ++ rest.take k, decide (k < rest.length)) ∧
      (taken.length < limit → bytes = 0 → rest ≠ [] → 0 < k) ∧
      (taken.length ≤ limit → taken.length + (rest.take k).length ≤ limit) := by
  induction rest generalizing taken bytes with
  | nil => exact ⟨0, by simp [takePage], fun _ _ none => absurd rfl none, fun room => room⟩
  | cons message rest ih =>
    obtain ⟨small, fit⟩ := List.forall_mem_cons.1 fit
    have sums : bytes + messageCharge message < usizeLimit := by
      have room : maxMessagePageBytes + maxMessagePageBytes < usizeLimit := by decide
      omega
    rw [takePage, messageMaterializationCharge_eq_ok.2 ⟨by omega, rfl⟩, ok_bind,
      checkedGraphChargeAdd_eq_ok.2 ⟨sums, rfl⟩, ok_bind]
    by_cases full : taken.length = limit ∨ maxMessagePageBytes < bytes + messageCharge message
    · rw [if_pos full]
      refine ⟨0, by simp, fun room empty _ => ?_, fun room => room⟩
      omega
    · rw [if_neg full]
      obtain ⟨k, taken_eq, _, count⟩ := ih fit (taken ++ [message]) (not_lt.1 (not_or.1 full).2)
      refine ⟨k + 1, ?_, fun _ _ _ => Nat.succ_pos k, fun room => ?_⟩
      · rw [taken_eq, List.append_assoc, List.take_succ_cons, List.length_cons]
        simp
      · rw [List.length_append, List.length_singleton] at count
        rw [List.take_succ_cons, List.length_cons]
        omega

variable {g : TaskGraph} {taskId : TaskId} {inbox : TaskInbox} {afterSequence : UInt64}
  {limit : Nat}

/-- **One page.** -/
theorem messagesPageFor_eq (sane : g.Sane) (short : g.ShortIds)
    (known : g.tasks.contains taskId = true) (low : 1 ≤ limit) (high : limit ≤ maxMessagePageItems) :
    ∃ k, g.messagesPageFor taskId afterSequence limit =
        .ok ⟨(g.unread taskId afterSequence).take k,
          ((g.unread taskId afterSequence).take k).getLast?.map (·.sequence),
          decide (k < (g.unread taskId afterSequence).length)⟩ ∧
      (g.unread taskId afterSequence ≠ [] → 0 < k) ∧
      ((g.unread taskId afterSequence).take k).length ≤ limit := by
  have fit : ∀ message ∈ g.unread taskId afterSequence,
      messageCharge message ≤ maxMessagePageBytes := fun message member =>
    sane.messageCharge_le short message (List.mem_of_mem_filter member)
  obtain ⟨k, taken, more, count⟩ := @takePage_eq limit _ fit [] 0 (Nat.zero_le _)
  refine ⟨k, ?_, more low rfl, ?_⟩
  · rw [messagesPageFor, known, decide_eq_true low, decide_eq_true high, taken]
    rfl
  · simpa using count (Nat.zero_le _)

/-! ## Following the cursor -/

theorem Posted.ordered (posted : g.Posted) :
    g.messages.Pairwise fun a b => a.sequence < b.sequence := by
  rw [List.pairwise_iff_getElem]
  intro i j inside inside' before
  have left := posted.sequence i _ (List.getElem?_eq_getElem inside)
  have right := posted.sequence j _ (List.getElem?_eq_getElem inside')
  rw [UInt64.lt_iff_toNat_lt]
  omega

/-- After the last message of a page comes the rest. -/
theorem unread_last (posted : g.Posted) {k : Nat} {last : TaskMessage}
    (is_last : ((g.unread taskId afterSequence).take k).getLast? = some last) :
    g.unread taskId last.sequence = (g.unread taskId afterSequence).drop k := by
  let key : TaskMessage → ℕᵒᵈ := fun message => OrderDual.toDual message.sequence.toNat
  have beyond : ∀ cursor, g.unread taskId cursor =
      below key (some (OrderDual.toDual cursor.toNat)) (g.messagesFor taskId) := by
    intro cursor
    rw [unread, messagesFor, below, List.filter_filter]
    refine List.filter_congr fun message _ => ?_
    simp [key, UInt64.lt_iff_toNat_lt, Bool.and_comm]
  have descending : Descending key (g.messagesFor taskId) :=
    (posted.ordered.sublist List.filter_sublist).imp fun before => UInt64.lt_iff_toNat_lt.1 before
  rw [beyond] at is_last ⊢
  rw [beyond]
  exact below_of_below descending is_last

/-- What was received is the front of the messages, and the cursor separates it from the
rest. -/
structure Front (g : TaskGraph) (taskId : TaskId) (inbox : TaskInbox) : Prop where
  whole : g.messagesFor taskId = inbox.received ++ g.unread taskId inbox.afterSequence
  behind : inbox.afterSequence < g.nextMessageSequence

theorem Front.start (posted : g.Posted) : g.Front taskId ⟨[], 0⟩ where
  whole := by
    rw [List.nil_append, messagesFor, unread]
    refine List.filter_congr fun message member => ?_
    obtain ⟨index, found⟩ := List.mem_iff_getElem?.1 member
    have sequence := posted.sequence index message found
    have positive : (0 : UInt64) < message.sequence := by
      rw [UInt64.lt_iff_toNat_lt, sequence]
      exact Nat.succ_pos index
    rw [decide_eq_true positive, Bool.and_true]
  behind := by
    rw [UInt64.lt_iff_toNat_lt, posted.next]
    exact Nat.succ_pos _

/-- A call leaves the messages alone or sends one. -/
theorem Kept.after_messages (kept : g.Kept) (call : DomainCall) :
    ((g.after call).messages = g.messages ∧
        (g.after call).nextMessageSequence = g.nextMessageSequence) ∨
      ∃ message, Sends g message (g.after call) := by
  unfold TaskGraph.after
  split
  · rename_i next performed
    rcases perform_cases kept.intact.keyed performed with ⟨mutations, batch, applied⟩ |
      ⟨message, sends, _⟩
    · obtain ⟨written, writes, rfl, _⟩ := applyTaskMutations_eq_ok kept.charged applied
      exact .inl writes.messages
    · exact .inr ⟨message, sends⟩
  · exact .inl ⟨rfl, rfl⟩

theorem Front.call (front : g.Front taskId inbox) (kept : g.Kept) (call : DomainCall) :
    (g.after call).Front taskId inbox := by
  rcases kept.after_messages call with ⟨messages, sequence⟩ | ⟨message, sends⟩
  · refine ⟨?_, ?_⟩
    · rw [messagesFor, unread, messages]
      exact front.whole
    · rw [sequence]
      exact front.behind
  · rw [sends.after]
    refine ⟨?_, ?_⟩
    · have later : inbox.afterSequence < message.sequence := by
        rw [sends.sequence]
        exact front.behind
      have whole := front.whole
      rw [messagesFor, unread] at whole ⊢
      rw [List.filter_append, List.filter_append, whole, List.append_assoc]
      congr 2
      refine List.filter_congr fun sent new => ?_
      rw [List.mem_singleton.1 new, decide_eq_true later, Bool.and_true]
    · have advanced : (g.nextMessageSequence + 1).toNat = g.nextMessageSequence.toNat + 1 := by
        rw [UInt64.toNat_add]
        exact Nat.mod_eq_of_lt sends.within
      have behind := UInt64.lt_iff_toNat_lt.1 front.behind
      show inbox.afterSequence < g.nextMessageSequence + 1
      rw [UInt64.lt_iff_toNat_lt, advanced]
      omega

theorem Front.page (front : g.Front taskId inbox) (sane : g.Sane) (short : g.ShortIds)
    {page : TaskMessagePage}
    (read : g.messagesPageFor taskId inbox.afterSequence limit = .ok page) :
    g.Front taskId (inbox.receive page) := by
  have checked := read
  rw [messagesPageFor, seq_eq_ok, seq_eq_ok, rejectIf_eq_ok, rejectIf_eq_ok, Bool.not_eq_false',
    Bool.not_eq_false', Bool.and_eq_true, decide_eq_true_iff, decide_eq_true_iff] at checked
  obtain ⟨known, ⟨low, high⟩, _⟩ := checked
  obtain ⟨k, paged, _⟩ := messagesPageFor_eq sane short known low high
  rw [paged, ok_eq_ok] at read
  subst read
  cases ended : ((g.unread taskId inbox.afterSequence).take k).getLast? with
  | none =>
    have empty := List.getLast?_eq_none_iff.1 ended
    rw [TaskInbox.receive, empty, List.append_nil]
    exact front
  | some last =>
    have member := List.mem_of_mem_filter (List.mem_of_mem_take (List.mem_of_getLast? ended))
    rw [TaskInbox.receive]
    refine ⟨?_, ?_⟩
    · show g.messagesFor taskId = (inbox.received ++ _) ++ g.unread taskId last.sequence
      rw [unread_last sane.posted ended, List.append_assoc, List.take_append_drop]
      exact front.whole
    · obtain ⟨index, found⟩ := List.mem_iff_getElem?.1 member
      obtain ⟨inside, _⟩ := List.getElem?_eq_some_iff.1 found
      have sequence := sane.posted.sequence index last found
      show last.sequence < _
      rw [UInt64.lt_iff_toNat_lt, sequence, sane.posted.next]
      omega

theorem Polls.front (polls : Polls taskId g inbox) :
    g.Sane ∧ g.ShortIds ∧ g.Front taskId inbox := by
  induction polls with
  | start reached short => exact ⟨reached.sane, short, .start reached.sane.posted⟩
  | call _ call fresh short ih =>
    obtain ⟨sane, _, front⟩ := ih
    exact ⟨sane.after fresh, short, front.call sane.toKept call⟩
  | page _ read ih =>
    obtain ⟨sane, short, front⟩ := ih
    exact ⟨sane, short, front.page sane short read⟩

/-- **Every message exactly once.**  While messages are sent and Tasks change, a worker that
follows the cursor has received the front of `messages_for`, no message twice, and the cursor
separates it from the rest.  Every page it may ask for is returned; one that reports more is
not empty, and one that does not completes the messages. -/
theorem inbox_exactly_once (polls : Polls taskId g inbox) :
    g.messagesFor taskId = inbox.received ++ g.unread taskId inbox.afterSequence ∧
    (inbox.received.map (·.id)).Nodup ∧
    (g.tasks.contains taskId = true → ∀ limit, 1 ≤ limit → limit ≤ maxMessagePageItems →
      ∃ page, g.messagesPageFor taskId inbox.afterSequence limit = .ok page ∧
        page.messages.length ≤ limit ∧ (page.hasMore = true → page.messages ≠ []) ∧
        (page.hasMore = false → (inbox.receive page).received = g.messagesFor taskId)) := by
  obtain ⟨sane, short, front⟩ := polls.front
  have whole := front.whole
  refine ⟨whole, ?_, fun known limit low high => ?_⟩
  · have part : inbox.received.Sublist (g.messagesFor taskId) := by
      rw [whole]
      exact List.sublist_append_left _ _
    exact sane.posted.distinct.sublist ((part.trans List.filter_sublist).map _)
  · obtain ⟨k, paged, more, count⟩ := messagesPageFor_eq sane short known low high
    refine ⟨_, paged, count, fun cut empty => ?_, fun uncut => ?_⟩
    · have remaining := of_decide_eq_true cut
      have some_left := more (List.ne_nil_of_length_pos (by omega))
      rw [List.take_eq_nil_iff] at empty
      rcases empty with none_taken | none_left
      · omega
      · rw [none_left, List.length_nil] at remaining
        omega
    · rw [TaskInbox.receive, whole, List.take_of_length_le (not_lt.1 (of_decide_eq_false uncut))]

/-- A page is read, if it is given. -/
def poll (g : TaskGraph) (taskId : TaskId) (limit : Nat) (inbox : TaskInbox) : TaskInbox :=
  ((g.messagesPageFor taskId inbox.afterSequence limit).toOption.map inbox.receive).getD inbox

theorem Polls.poll (polls : Polls taskId g inbox) (limit : Nat) :
    Polls taskId g (g.poll taskId limit inbox) := by
  unfold TaskGraph.poll
  cases read : g.messagesPageFor taskId inbox.afterSequence limit with
  | error e => exact polls
  | ok page => exact polls.page read

def sampleSent : TaskGraph :=
  sampleClaimed.after (.sendMessage "message-1" "build" "test" "started" 11)

/-- Two messages more, once the first was read. -/
def sampleMore : TaskGraph :=
  (sampleSent.after (.sendMessage "message-2" "build" "test" "built" 12)).after
    (.sendMessage "message-3" "build" "test" "linked" 13)

/-- One message is read, and then one of the two that follow. -/
def sampleInbox : TaskInbox :=
  sampleMore.poll "test" 1 (sampleSent.poll "test" 1 ⟨[], 0⟩)

theorem sampleInbox_polls : Polls "test" sampleMore sampleInbox := by
  have claimed : Reachable Fresh sampleClaimed :=
    .call (.new sampleGraph_built) (.claimReady (fun _ => "lease-1") "worker-1" 10 100 2) trivial
  have first : Polls "test" sampleSent (sampleSent.poll "test" 1 ⟨[], 0⟩) :=
    ((Polls.start claimed (by unfold ShortIds; decide +kernel)).call
      (.sendMessage "message-1" "build" "test" "started" 11) (by unfold Fresh; decide +kernel)
      (by unfold ShortIds; decide +kernel)).poll 1
  exact ((first.call (.sendMessage "message-2" "build" "test" "built" 12)
    (by unfold Fresh; decide +kernel) (by unfold ShortIds; decide +kernel)).call
    (.sendMessage "message-3" "build" "test" "linked" 13) (by unfold Fresh; decide +kernel)
    (by unfold ShortIds; decide +kernel)).poll 1

/-- The next page has the last message. -/
theorem inbox_exactly_once_sample :
    sampleInbox.received.map (·.id) = ["message-1", "message-2"] ∧
      (sampleMore.unread "test" sampleInbox.afterSequence).map (·.id) = ["message-3"] ∧
      ∃ page, sampleMore.messagesPageFor "test" sampleInbox.afterSequence 1 = .ok page ∧
        (page.hasMore = false →
          (sampleInbox.receive page).received = sampleMore.messagesFor "test") := by
  obtain ⟨page, read, _, _, done⟩ :=
    (inbox_exactly_once sampleInbox_polls).2.2 (by decide +kernel) 1 (by decide) (by decide)
  exact ⟨by decide +kernel, by decide +kernel, page, read, done⟩

end TaskGraph

end YHarness.Orchestration
