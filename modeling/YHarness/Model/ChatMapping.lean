/-
# YHarness.Model.ChatMapping -- the Tool names of one request in a later one

The mapping of a request, the restoration of the response to it and the replay of what was
restored, under the mapping of a later request.  The names of the two requests need not be the
same on the wire; the Tools are.
-/
import YHarness.Model.ChatReplay

namespace YHarness.Model.Chat

open YHarness.Lib YHarness.Kernel YHarness.Runtime

set_option autoImplicit false

/-! ## The replay of calls -/

/-- A call of the Tool on the wire. -/
def SentAs (names : OpenAiToolNames) (call : ModelToolCall) (value : Json) : Prop :=
  ∃ wire input, names.internalToWire[call.name]? = some wire ∧ names.internal wire = call.name ∧
    value = callJson call.callId wire input

theorem Projects.wire_ok {done : List String} {names : OpenAiToolNames}
    (projects : Projects done names) {name : String} (member : name ∈ done) :
    ∃ wire, names.wire name = .ok wire ∧ names.internalToWire[name]? = some wire ∧
      names.internal wire = name := by
  obtain ⟨wire, mapped⟩ := Option.isSome_iff_exists.1 ((projects.mapped name).2 member)
  refine ⟨wire, by rw [OpenAiToolNames.wire, mapped]; rfl, mapped, ?_⟩
  rw [OpenAiToolNames.internal, (projects.inverse name wire).1 mapped]
  rfl

section Replay

variable {parse : List UInt8 → Option Json} (rereads : Rereads parse) {done : List String}
  {names : OpenAiToolNames} (projects : Projects done names)
include rereads projects

variable {represented : OrdMap String (String × Json)} {calls : List ModelToolCall}

/-- **One call** that is not represented yet. -/
theorem replayCall_ok {call : ModelToolCall} (decoded : Decoded parse call)
    (named : call.name.isEmpty = false) (member : call.name ∈ done) (sent : List Json)
    (fresh : (represented[call.callId]?).isSome = false) :
    ∃ value input, SentAs names call value ∧
      replayCall parse names (sent, represented) (callJson call.callId call.name call.input) =
        .ok (sent ++ [value], represented.insert call.callId (call.name, input)) := by
  obtain ⟨input, reread, object⟩ := decodeToolCall_callJson rereads decoded named
  obtain ⟨wire, wired, mapped, back⟩ := projects.wire_ok member
  refine ⟨callJson call.callId wire input, input, ⟨wire, input, mapped, back, rfl⟩,
    bind_eq_ok.2 ⟨_, reread, bind_eq_ok.2 ⟨wire, wired, ?_⟩⟩⟩
  refine bind_eq_ok.2 ⟨_, seq_eq_ok.2 ⟨?_, rfl⟩, seq_eq_ok.2 ⟨?_, rfl⟩⟩
  · rw [rejectIf_eq_ok, Option.isNone_eq_false_iff]
    exact object
  · rw [rejectIf_eq_ok, Std.ExtTreeMap.contains_eq_isSome_getElem?]
    exact fresh

/-- **All calls**, one for one. -/
theorem replayCalls_ok (sent : List Json) (decoded : ∀ call ∈ calls, Decoded parse call)
    (named : ∀ call ∈ calls, call.name.isEmpty = false) (members : ∀ call ∈ calls, call.name ∈ done)
    (distinct : (calls.map (·.callId)).Nodup)
    (fresh : ∀ call ∈ calls, (represented[call.callId]?).isSome = false) :
    ∃ values represented', List.Forall₂ (SentAs names) calls values ∧
      (calls.map fun call => callJson call.callId call.name call.input).foldlM
        (replayCall parse names) (sent, represented) = .ok (sent ++ values, represented') := by
  induction calls generalizing sent represented with
  | nil => exact ⟨[], represented, .nil, by rw [List.append_nil]; rfl⟩
  | cons call calls ih =>
    rw [List.forall_mem_cons] at decoded named members fresh
    rw [List.map_cons, List.nodup_cons] at distinct
    obtain ⟨value, input, sentAs, replayed⟩ :=
      replayCall_ok rereads projects decoded.1 named.1 members.1 sent fresh.1
    have later : ∀ other ∈ calls,
        ((represented.insert call.callId (call.name, input))[other.callId]?).isSome = false := by
      intro other member
      have apart : call.callId ≠ other.callId := fun same =>
        distinct.1 (List.mem_map.2 ⟨other, member, same.symm⟩)
      rw [OrdMap.get?_insert_of_ne _ _ apart]
      exact fresh.2 other member
    obtain ⟨values, represented', all, rest⟩ :=
      ih (sent ++ [value]) decoded.2 named.2 members.2 distinct.2 later
    refine ⟨value :: values, represented', .cons sentAs all, ?_⟩
    rw [List.map_cons, List.foldlM_cons, replayed, ok_bind, rest, List.append_assoc]
    rfl

/-- **A restored continuation** is sent again as one message of calls of the same Tools. -/
theorem appendContinuation_ok {content : Json} (valid : validContent (some content) = true)
    (some : calls ≠ []) (decoded : ∀ call ∈ calls, Decoded parse call)
    (named : ∀ call ∈ calls, call.name.isEmpty = false) (members : ∀ call ∈ calls, call.name ∈ done)
    (distinct : (calls.map (·.callId)).Nodup) (messages : List Json)
    (fresh : ∀ call ∈ calls, (represented[call.callId]?).isSome = false) :
    ∃ values represented', List.Forall₂ (SentAs names) calls values ∧
      appendContinuation parse names (continued content calls) messages represented =
        .ok (messages ++ [assistantCalls content values], represented') := by
  obtain ⟨values, represented', all, replayed⟩ :=
    replayCalls_ok rereads projects [] decoded named members distinct fresh
  refine ⟨values, represented', all, seq_eq_ok.2 ⟨?_, bind_eq_ok.2 ⟨_, rfl, ?_⟩⟩⟩
  · rw [rejectIf_eq_ok]
    rfl
  refine seq_eq_ok.2 ⟨rfl, seq_eq_ok.2 ⟨?_, bind_eq_ok.2
    ⟨calls.map fun call => callJson call.callId call.name call.input, ?_, bind_eq_ok.2
      ⟨_, replayed, rfl⟩⟩⟩⟩
  · rw [rejectIf_eq_ok]
    exact congrArg not valid
  · rw [orError_eq_ok, Option.filter_eq_some_iff]
    refine ⟨rfl, ?_⟩
    rw [Bool.not_eq_true', List.isEmpty_eq_false_iff, ne_eq, List.map_eq_nil_iff]
    exact some

end Replay

/-! ## One request and a later one -/

/-- The two maps of a request. -/
structure MapsNames (tools : List ToolDescriptor) (names : OpenAiToolNames) : Prop where
  advertised : ∀ name : String, (names.internalToWire[name]?).isSome = true ↔
    name ∈ tools.map (·.name)
  inverse : ∀ name wire : String, names.internalToWire[name]? = some wire ↔
    names.wireToInternal[wire]? = some name
  valid : ∀ name wire : String, names.internalToWire[name]? = some wire → isOpenAiToolName wire = true
  identity : ∀ name wire : String, names.internalToWire[name]? = some wire →
    isOpenAiToolName name = true → wire = name

variable {tools : List ToolDescriptor}

theorem mem_namesWhere {name : String} :
    name ∈ namesWhere true tools ++ namesWhere false tools ↔ name ∈ tools.map (·.name) := by
  rw [List.mem_append, namesWhere, namesWhere, List.mem_filter, List.mem_filter]
  cases isOpenAiToolName name <;> simp

theorem Projects.mapsNames {names : OpenAiToolNames}
    (projects : Projects (namesWhere true tools ++ namesWhere false tools) names) :
    MapsNames tools names where
  advertised name := (projects.mapped name).trans mem_namesWhere
  inverse := projects.inverse
  valid := projects.valid
  identity := projects.identity

/-- A request whose Tools can be mapped, and their names put back. -/
structure Restores (hash : List UInt8 → Vector UInt8 32) (tools : List ToolDescriptor) : Prop where
  nodup : (tools.map (·.name)).Nodup
  distinct : AliasesDistinct hash tools
  restorable : ∀ tool ∈ tools, Restorable tool.name

theorem Restores.names {hash : List UInt8 → Vector UInt8 32} (restores : Restores hash tools) :
    ∀ name ∈ namesWhere true tools ++ namesWhere false tools, Restorable name := by
  intro name member
  obtain ⟨tool, held, rfl⟩ := List.mem_map.1 (mem_namesWhere.1 member)
  exact restores.restorable tool held

/-- **Tool names are reversible.**  The names of a request are mapped; the calls of the response
and of its continuation are put back; and a later request that advertises the called Tools sends
calls of the same Tools. -/
theorem tool_names_reversible (hash : List UInt8 → Vector UInt8 32)
    (parse : List UInt8 → Option Json) (rereads : Rereads parse) (tools : List ToolDescriptor)
    (nodup : (tools.map (·.name)).Nodup) (distinct : AliasesDistinct hash tools) :
    ∃ names, OpenAiToolNames.fromRequest hash tools = .ok names ∧ MapsNames tools names ∧
      (Restores hash tools → ∀ root requestId response,
        decodeResponseValue parse root requestId = .ok response →
        ∃ restored, names.restoreResponse response.response = .ok restored ∧
          callsOf restored.output = (callsOf response.response.output).map names.restored ∧
          ∀ continuation, response.response.continuation = some continuation → ∃ content,
            continuation = continued content (callsOf response.response.output) ∧
            restored.continuation = some (continued content (callsOf restored.output)) ∧
            ∀ later, Restores hash later →
              (∀ call ∈ callsOf restored.output, call.name ∈ later.map (·.name)) →
              ∃ names', OpenAiToolNames.fromRequest hash later = .ok names' ∧
                ∀ messages (represented : OrdMap String (String × Json)),
                  (∀ call ∈ callsOf restored.output,
                    (represented[call.callId]?).isSome = false) →
                  ∃ values represented',
                    List.Forall₂ (SentAs names') (callsOf restored.output) values ∧
                    appendContinuation parse names' (continued content (callsOf restored.output))
                      messages represented =
                        .ok (messages ++ [assistantCalls content values], represented')) := by
  obtain ⟨names, mapped, projects⟩ := fromRequest_ok nodup distinct
  refine ⟨names, mapped, projects.mapsNames, fun restores root requestId response accepted => ?_⟩
  obtain ⟨content, calls, made⟩ := decoded_calls accepted
  obtain ⟨restored, done, output, continuation⟩ := restoreResponse_ok projects restores.names made
  refine ⟨restored, done, by rw [output, made.output], fun held same => ?_⟩
  obtain ⟨some, spelled⟩ := made.continuation held same
  refine ⟨content, by rw [spelled, made.output, continued], by rw [continuation, same, output]; rfl, ?_⟩
  intro later restores' advertised
  obtain ⟨names', mapped', projects'⟩ := fromRequest_ok restores'.nodup restores'.distinct
  refine ⟨names', mapped', fun messages represented fresh => ?_⟩
  rw [output] at advertised fresh ⊢
  have members : ∀ call ∈ calls.map names.restored,
      call.name ∈ namesWhere true later ++ namesWhere false later :=
    fun call member => mem_namesWhere.2 (advertised call member)
  refine appendContinuation_ok rereads projects' made.content_valid ?_ ?_ ?_ members ?_ messages fresh
  · rw [ne_eq, List.map_eq_nil_iff]
    exact some
  · intro call member
    obtain ⟨call, held, rfl⟩ := List.mem_map.1 member
    exact ⟨(made.decoded call held).named, (made.decoded call held).object,
      (made.decoded call held).read⟩
  · exact fun call member => (restores'.names _ (members call member)).nonempty
  · rw [List.map_map]
    exact made.distinct

/-! ## Two Tools -/

/-- The empty object is read, and nothing else. -/
def emptyReader (bytes : List UInt8) : Option Json :=
  if bytes = utf8Bytes "\x7b\x7d" then some (.obj []) else none

theorem emptyReader_rereads : Rereads emptyReader := by
  intro bytes value read _
  unfold emptyReader at read
  split at read
  · cases read
    exact ⟨.obj [], by decide +kernel, rfl⟩
  · cases read

/-- The digests of the two names under the salts 0 and 1. -/
def sampleDigests : List (String × Vector UInt8 32) :=
  [("\x000", #v[219, 52, 38, 232, 120, 6, 141, 40, 210, 105, 182, 200, 113, 114, 50, 44, 229, 55, 43,
      101, 117, 109, 7, 137, 0, 29, 52, 131, 95, 96, 28, 3]),
    ("\x001", #v[34, 21, 232, 172, 78, 43, 135, 28, 42, 72, 24, 158, 121, 115, 140, 149, 108, 8, 30,
      35, 172, 47, 36, 21, 191, 119, 218, 25, 157, 253, 146, 12]),
    ("mcp.files.search_the_whole_workspace_by_text_or_by_name.v2.beta\x000", #v[166, 171, 166, 54,
      89, 216, 65, 124, 170, 21, 140, 53, 240, 197, 255, 253, 47, 138, 164, 69, 26, 192, 243, 13, 173,
      169, 52, 97, 78, 98, 44, 85]),
    ("mcp.files.search_the_whole_workspace_by_text_or_by_name.v2.beta\x001", #v[225, 195, 190, 249,
      238, 206, 84, 207, 82, 90, 73, 32, 71, 198, 202, 223, 177, 150, 200, 188, 154, 232, 244, 166,
      254, 208, 89, 140, 122, 223, 136, 126])]

def sampleHash (bytes : List UInt8) : Vector UInt8 32 :=
  ((sampleDigests.find? fun entry => utf8Bytes entry.1 == bytes).map (·.2)).getD (.replicate 32 0)

/-- A Tool that the registry admits, and that needs an alias. -/
def searchTool : ToolDescriptor :=
  ⟨"mcp.files.search_the_whole_workspace_by_text_or_by_name.v2.beta", "", .obj []⟩

def unnamedTool : ToolDescriptor :=
  ⟨"", "", .obj []⟩

/-- A response that calls a Tool of this wire name. -/
def sampleResponse (wire : String) : Json :=
  .obj [("choices", .arr [.obj [("finish_reason", .str "tool_calls"), ("index", .nat 0),
    ("message", assistantCalls .null [callJson "call-1" wire (.obj [])])]])]

/-- The calls of a response, replayed in the next request with the same Tools. -/
def replayedCalls (tools : List ToolDescriptor) (wire : String) :
    Option (Except HarnessError (List Json)) :=
  match OpenAiToolNames.fromRequest sampleHash tools,
    decodeResponseValue emptyReader (sampleResponse wire) none with
  | .ok names, .ok response =>
    match names.restoreResponse response.response with
    | .ok restored => restored.continuation.map fun continuation =>
      (appendContinuation emptyReader names continuation [] ∅).map (·.1)
    | .error _ => none
  | _, _ => none

/-- A call of a Tool without a name is accepted, restored, and not replayed. -/
theorem unnamed_tool_not_replayed :
    ([unnamedTool].map (·.name)).Nodup ∧ AliasesDistinct sampleHash [unnamedTool] ∧
      (replayedCalls [unnamedTool]
        "yh_db3426e878068d28d269b6c87172322ce5372b65756d0789001d34835f601").map Except.toBool =
          some false :=
  ⟨by decide, by unfold AliasesDistinct; decide +kernel, by decide +kernel⟩

theorem searchTool_restores : Restores sampleHash [searchTool] where
  nodup := by decide
  distinct := by unfold AliasesDistinct; decide +kernel
  restorable tool member := by
    rw [List.mem_singleton.1 member]
    exact restorable_of_registered (by decide +kernel)

def searchAlias : String :=
  "yh_a6aba63659d8417caa158c35f0c5fffd2f8aa4451ac0f30dada934614e622"

/-- Whether a response can be continued, and the Tools that it calls. -/
def calledTools (tools : List ToolDescriptor) (wire : String) : Option (Bool × List String) :=
  match OpenAiToolNames.fromRequest sampleHash tools,
    decodeResponseValue emptyReader (sampleResponse wire) none with
  | .ok names, .ok response => some (response.response.continuation.isSome,
      ((callsOf response.response.output).map names.restored).map (·.name))
  | _, _ => none

/-- The call of a Tool under its alias comes back as a call of the Tool, and a later request
sends it as one again. -/
theorem tool_names_reversible_sample :
    ∃ (names names' : OpenAiToolNames) (calls : List ModelToolCall) (content : Json)
      (values : List Json) (represented : OrdMap String (String × Json)),
      OpenAiToolNames.fromRequest sampleHash [searchTool] = .ok names ∧
      calls.map (·.name) = [searchTool.name] ∧
      OpenAiToolNames.fromRequest sampleHash [searchTool] = .ok names' ∧
      List.Forall₂ (SentAs names') calls values ∧
      appendContinuation emptyReader names' (continued content calls) [] ∅ =
        .ok ([assistantCalls content values], represented) := by
  obtain ⟨names, mapped, _, restored⟩ := tool_names_reversible sampleHash emptyReader
    emptyReader_rereads [searchTool] searchTool_restores.nodup searchTool_restores.distinct
  have called : calledTools [searchTool] searchAlias = some (true, [searchTool.name]) := by
    decide +kernel
  unfold calledTools at called
  rw [mapped] at called
  match decoded : decodeResponseValue emptyReader (sampleResponse searchAlias) none with
  | .error e =>
    rw [decoded] at called
    cases called
  | .ok response =>
    rw [decoded] at called
    obtain ⟨continues, named⟩ := Prod.mk.inj (Option.some.inj called)
    obtain ⟨continuation, held⟩ := Option.isSome_iff_exists.1 continues
    obtain ⟨again, _, output, continued⟩ := restored searchTool_restores _ none response decoded
    obtain ⟨content, _, _, later⟩ := continued continuation held
    rw [← output] at named
    obtain ⟨names', mapped', sends⟩ := later [searchTool]
      searchTool_restores fun call member => by
        have name := List.mem_map_of_mem (f := fun call : ModelToolCall => call.name) member
        rw [named, List.mem_singleton] at name
        rw [name]
        decide
    obtain ⟨values, represented, sent, appended⟩ := sends [] ∅ fun call _ => by
      rw [OrdMap.get?_empty]
      rfl
    exact ⟨names, names', _, content, values, represented, mapped, named, mapped', sent, appended⟩

end YHarness.Model.Chat
