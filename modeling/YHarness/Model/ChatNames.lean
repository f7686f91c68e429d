/-
# YHarness.Model.ChatNames -- Tool names on the Chat Completions wire

`OpenAiToolNames` of `src/model/openai_chat_completions.rs` gives every advertised Tool a name
of the narrower alphabet of the wire: its own where that is one, else a readable projection,
else an alias of its digest.  The two maps are built together, an entry at a time, and stay
inverse to each other (`Projects`): a name is added only while both of its sides are free, and
of the aliases of a name one more is tried than wire names are taken.

The hash function is a parameter.
-/
import YHarness.Lib.OrdMap
import YHarness.Model.Chat

namespace YHarness.Model.Chat

open YHarness.Lib YHarness.Kernel YHarness.Runtime

set_option autoImplicit false

/-! ## The mapping -/

def maxOpenAiToolNameBytes : Nat := 64

/-- `is_openai_tool_name`. -/
def isOpenAiToolName : String → Bool :=
  boundedText (fun c => c.isAlphanum || c = '_' || c = '-') maxOpenAiToolNameBytes

structure OpenAiToolNames where
  internalToWire : OrdMap String String
  wireToInternal : OrdMap String String

/-- `insert_tool_name_mapping`. -/
def insertToolNameMapping (names : OpenAiToolNames) (internal wire : String) :
    Except HarnessError OpenAiToolNames := do
  rejectIf (names.internalToWire.contains internal)
    (.model s!"Chat Completions request repeated Tool {debugText internal}")
  match names.wireToInternal[wire]? with
  | some existing => .error (.model (s!"Chat Completions Tool wire identity {debugText wire} " ++
      s!"collides between {debugText existing} and {debugText internal}"))
  | none => .ok ⟨names.internalToWire.insert internal wire, names.wireToInternal.insert wire internal⟩

/-- The alias of a name under a salt, cut to the bytes of a wire name. -/
def digestAlias (hash : List UInt8 → Vector UInt8 32) (internal : String) (salt : Nat) : String :=
  String.ofList (("yh_".toList ++
    hexChars (hash (utf8Bytes s!"{internal}\x00{salt}")).toList).take maxOpenAiToolNameBytes)

/-- `digest_tool_alias`. -/
def digestToolAlias (hash : List UInt8 → Vector UInt8 32) (internal : String)
    (occupied : OrdMap String String) : Except HarnessError String :=
  orError (.model "cannot allocate a collision-free Chat Completions Tool wire alias")
    (((List.range (occupied.size + 1)).map (digestAlias hash internal)).find?
      fun candidate => !occupied.contains candidate)

/-- `name.replace('.', "__")`. -/
def readableName (name : String) : String :=
  String.ofList (name.toList.flatMap fun c => if c = '.' then ['_', '_'] else [c])

/-- The wire name of a Tool whose own name is none. -/
def projectedName (hash : List UInt8 → Vector UInt8 32) (name : String)
    (occupied : OrdMap String String) : Except HarnessError String :=
  if isOpenAiToolName (readableName name) && !occupied.contains (readableName name) then
    .ok (readableName name)
  else digestToolAlias hash name occupied

/-- A round of the first loop of `from_request`. -/
def addIdentity (names : OpenAiToolNames) (tool : ToolDescriptor) :
    Except HarnessError OpenAiToolNames :=
  if isOpenAiToolName tool.name then insertToolNameMapping names tool.name tool.name else .ok names

/-- A round of the second. -/
def addProjected (hash : List UInt8 → Vector UInt8 32) (names : OpenAiToolNames)
    (tool : ToolDescriptor) : Except HarnessError OpenAiToolNames :=
  if isOpenAiToolName tool.name then .ok names
  else do
    let wire ← projectedName hash tool.name names.wireToInternal
    insertToolNameMapping names tool.name wire

namespace OpenAiToolNames

/-- `from_request`, of the Tools of the request. -/
def fromRequest (hash : List UInt8 → Vector UInt8 32) (tools : List ToolDescriptor) :
    Except HarnessError OpenAiToolNames := do
  let names ← tools.foldlM addIdentity ⟨∅, ∅⟩
  tools.foldlM (addProjected hash) names

def wire (names : OpenAiToolNames) (internal : String) : Except HarnessError String :=
  orError (.model s!"Chat Completions Tool {debugText internal} has no request-local wire identity")
    names.internalToWire[internal]?

def internal (names : OpenAiToolNames) (wire : String) : String :=
  (names.wireToInternal[wire]?).getD wire

end OpenAiToolNames

/-! ## What the loops keep -/

/-- The names that are mapped, each to a wire name and back. -/
structure Projects (done : List String) (names : OpenAiToolNames) : Prop where
  inverse : ∀ name wire : String, names.internalToWire[name]? = some wire ↔
    names.wireToInternal[wire]? = some name
  mapped : ∀ name : String, (names.internalToWire[name]?).isSome = true ↔ name ∈ done
  valid : ∀ name wire : String, names.internalToWire[name]? = some wire → isOpenAiToolName wire = true
  identity : ∀ name wire : String, names.internalToWire[name]? = some wire →
    isOpenAiToolName name = true → wire = name
  -- how a wire name comes about, which bounds its length from below
  shape : ∀ name wire : String, names.internalToWire[name]? = some wire →
    wire = name ∨ wire = readableName name ∨ wire.utf8ByteSize = maxOpenAiToolNameBytes
  size : names.wireToInternal.size = done.length

theorem Projects.new : Projects [] ⟨∅, ∅⟩ where
  inverse name wire := by simp
  mapped name := by simp
  valid := by simp
  identity := by simp
  shape := by simp
  size := rfl

theorem getElem?_insert_string (table : OrdMap String String) (key other value : String) :
    (table.insert key value)[other]? = if key = other then some value else table[other]? := by
  by_cases same : key = other
  · rw [if_pos same, ← same, OrdMap.get?_insert_self]
  · rw [if_neg same, OrdMap.get?_insert_of_ne _ _ same]

variable {names : OpenAiToolNames} {done : List String} {hash : List UInt8 → Vector UInt8 32}

/-- **One entry.**  A name and a wire name that are both free. -/
theorem Projects.insert (projects : Projects done names) {name wire : String} (fresh : name ∉ done)
    (free : names.wireToInternal[wire]? = none) (valid : isOpenAiToolName wire = true)
    (identity : isOpenAiToolName name = true → wire = name)
    (shape : wire = name ∨ wire = readableName name ∨
      wire.utf8ByteSize = maxOpenAiToolNameBytes) :
    ∃ names', insertToolNameMapping names name wire = .ok names' ∧
      Projects (done ++ [name]) names' := by
  have unmapped : names.internalToWire[name]? = none := by
    rw [← Option.not_isSome_iff_eq_none, projects.mapped]
    exact fresh
  refine ⟨⟨names.internalToWire.insert name wire, names.wireToInternal.insert wire name⟩, ?_, ?_⟩
  · rw [insertToolNameMapping, Std.ExtTreeMap.contains_eq_isSome_getElem?, unmapped, free]
    rfl
  · have split {P : String → String → Prop} (here : P name wire)
        (earlier : ∀ other found, names.internalToWire[other]? = some found → P other found)
        (other found : String) (held : (names.internalToWire.insert name wire)[other]? = some found) :
        P other found := by
      rw [getElem?_insert_string] at held
      split at held
      · rename_i same
        subst same
        cases held
        exact here
      · exact earlier other found held
    constructor
    · intro other found
      dsimp only
      rw [getElem?_insert_string, getElem?_insert_string]
      by_cases name' : name = other
      · subst name'
        rw [if_pos rfl]
        by_cases wire' : wire = found
        · rw [if_pos wire', wire']
          simp
        · rw [if_neg wire', ← projects.inverse, unmapped]
          simp [wire']
      · rw [if_neg name']
        by_cases wire' : wire = found
        · subst wire'
          rw [if_pos rfl, projects.inverse, free]
          simp [name']
        · rw [if_neg wire']
          exact projects.inverse other found
    · intro other
      dsimp only
      rw [getElem?_insert_string, List.mem_append, List.mem_singleton, ← projects.mapped other]
      by_cases same : name = other
      · rw [if_pos same]
        simp [same]
      · rw [if_neg same]
        simp [Ne.symm same]
    · exact split valid projects.valid
    · exact split identity projects.identity
    · exact split shape projects.shape
    · dsimp only
      rw [Std.ExtTreeMap.size_insert, if_neg, projects.size, List.length_append]
      · rfl
      · rw [Std.ExtTreeMap.contains_eq_isSome_getElem?, free]
        exact Bool.false_ne_true

/-! ## Aliases -/

theorem ascii_size {cs : List Char} (ascii : ∀ c ∈ cs, c.val.toNat < 128) :
    (String.ofList cs).utf8ByteSize = cs.length := by
  rw [← utf8Bytes_length, charBytes_ofList, charBytes]
  induction cs with
  | nil => rfl
  | cons c cs ih =>
    rw [List.flatMap_cons, encode_ascii (ascii c List.mem_cons_self), List.length_append, ih
      fun c member => ascii c (List.mem_cons_of_mem _ member), List.length_singleton,
      List.length_cons, Nat.add_comm]

def hexDigits : List Char :=
  ['0', '1', '2', '3', '4', '5', '6', '7', '8', '9', 'a', 'b', 'c', 'd', 'e', 'f']

def aliasChars : List Char :=
  ['y', 'h', '_'] ++ hexDigits

theorem hexChars_hex {bytes : List UInt8} {c : Char} (member : c ∈ hexChars bytes) :
    c ∈ hexDigits := by
  have digit : ∀ n < 16, Nat.digitChar n ∈ hexDigits := by decide
  obtain ⟨byte, _, member⟩ := List.mem_flatMap.1 member
  have small := byte.toNat_lt
  rcases List.mem_cons.1 member with rfl | member
  · exact digit _ (by omega)
  · rw [List.mem_singleton] at member
    exact member ▸ digit _ (by omega)

theorem hexChars_length (bytes : List UInt8) : (hexChars bytes).length = 2 * bytes.length := by
  induction bytes with
  | nil => rfl
  | cons byte bytes ih =>
    rw [hexChars, List.flatMap_cons, List.length_append, ← hexChars, ih, List.length_cons]
    simp only [List.length_cons, List.length_nil]
    omega

section Aliases

variable (hash : List UInt8 → Vector UInt8 32)

theorem digestAlias_chars (name : String) (salt : Nat) :
    ∀ c ∈ (digestAlias hash name salt).toList, c ∈ aliasChars := by
  intro c member
  rw [digestAlias, String.toList_ofList] at member
  rcases List.mem_append.1 (List.mem_of_mem_take member) with start | digest
  · exact List.mem_append_left _ start
  · exact List.mem_append_right _ (hexChars_hex digest)

theorem digestAlias_size (name : String) (salt : Nat) :
    (digestAlias hash name salt).utf8ByteSize = maxOpenAiToolNameBytes := by
  have ascii : ∀ c ∈ aliasChars, c.val.toNat < 128 := by
    simpa only [List.all_eq_true, decide_eq_true_eq] using
      (by decide : aliasChars.all (fun c => decide (c.val.toNat < 128)) = true)
  have chars := digestAlias_chars hash name salt
  rw [digestAlias, String.toList_ofList] at chars
  rw [digestAlias, ascii_size fun c member => ascii c (chars c member), List.length_take,
    List.length_append, hexChars_length, Vector.length_toList]
  rfl

theorem digestAlias_valid (name : String) (salt : Nat) :
    isOpenAiToolName (digestAlias hash name salt) = true := by
  have size := digestAlias_size hash name salt
  have admitted : ∀ c ∈ aliasChars, (c.isAlphanum || c = '_' || c = '-') = true :=
    List.all_eq_true.1 (by decide)
  rw [isOpenAiToolName, boundedText, size, Bool.and_eq_true, Bool.and_eq_true]
  refine ⟨⟨?_, by decide⟩, ?_⟩
  · rw [Bool.not_eq_true', String.isEmpty_eq_false_iff]
    intro empty
    rw [empty] at size
    exact absurd size (by decide)
  · rw [List.all_eq_true]
    exact fun c member => admitted c (digestAlias_chars hash name salt c member)

/-- The aliases of a name under the salts that may be tried differ. -/
def AliasesDistinct (tools : List ToolDescriptor) : Prop :=
  ∀ tool ∈ tools, ∀ salt ≤ tools.length, ∀ salt' ≤ tools.length,
    digestAlias hash tool.name salt = digestAlias hash tool.name salt' → salt = salt'

/-- **One more alias is tried than wire names are taken.** -/
theorem digestToolAlias_ok {name : String} {occupied : OrdMap String String}
    (distinct : ∀ salt ≤ occupied.size, ∀ salt' ≤ occupied.size,
      digestAlias hash name salt = digestAlias hash name salt' → salt = salt') :
    ∃ wire, digestToolAlias hash name occupied = .ok wire ∧ occupied[wire]? = none ∧
      isOpenAiToolName wire = true ∧ wire.utf8ByteSize = maxOpenAiToolNameBytes := by
  have candidates : ((List.range (occupied.size + 1)).map (digestAlias hash name)).Nodup := by
    refine List.Nodup.map_on (fun salt small salt' small' same => ?_) List.nodup_range
    rw [List.mem_range] at small small'
    exact distinct salt (by omega) salt' (by omega) same
  obtain ⟨wire, found⟩ : ∃ wire, ((List.range (occupied.size + 1)).map
      (digestAlias hash name)).find? (fun candidate => !occupied.contains candidate) =
        some wire := by
    rw [← Option.isSome_iff_exists]
    by_contra none
    rw [Option.not_isSome_iff_eq_none, List.find?_eq_none] at none
    have few := length_le_size candidates fun key member => by
      have taken := none key member
      rw [Bool.not_eq_true', Bool.not_eq_false, Std.ExtTreeMap.contains_eq_isSome_getElem?] at taken
      exact taken
    rw [List.length_map, List.length_range] at few
    omega
  have free := List.find?_some found
  obtain ⟨salt, _, rfl⟩ := List.mem_map.1 (List.mem_of_find?_eq_some found)
  refine ⟨_, by rw [digestToolAlias, found]; rfl, ?_, digestAlias_valid hash name salt,
    digestAlias_size hash name salt⟩
  rw [Bool.not_eq_true', Std.ExtTreeMap.contains_eq_isSome_getElem?] at free
  exact Option.isNone_iff_eq_none.1 (Option.isSome_eq_false_iff.1 free)

end Aliases

/-! ## The loops -/

/-- The names of Tools that are wire names, or that are none. -/
def namesWhere (valid : Bool) (tools : List ToolDescriptor) : List String :=
  (tools.map (·.name)).filter (isOpenAiToolName · == valid)

theorem namesWhere_cons (valid : Bool) (tool : ToolDescriptor) (tools : List ToolDescriptor) :
    namesWhere valid (tool :: tools) =
      (if isOpenAiToolName tool.name = valid then [tool.name] else []) ++ namesWhere valid tools := by
  rw [namesWhere, List.map_cons, List.filter_cons]
  by_cases same : isOpenAiToolName tool.name = valid
  · rw [if_pos (beq_iff_eq.2 same), if_pos same]
    rfl
  · rw [if_neg (fun equal => same (beq_iff_eq.1 equal)), if_neg same]
    rfl

/-- **The first loop** maps every name that is a wire name to itself. -/
theorem addIdentity_all (tools : List ToolDescriptor) (projects : Projects done names)
    (valid : ∀ name ∈ done, isOpenAiToolName name = true)
    (nodup : (done ++ namesWhere true tools).Nodup) :
    ∃ names', tools.foldlM addIdentity names = .ok names' ∧
      Projects (done ++ namesWhere true tools) names' := by
  induction tools generalizing done names with
  | nil =>
    refine ⟨names, rfl, ?_⟩
    rw [namesWhere, List.map_nil, List.filter_nil, List.append_nil]
    exact projects
  | cons tool tools ih =>
    rw [namesWhere_cons] at nodup ⊢
    rw [List.foldlM_cons, addIdentity]
    by_cases wire : isOpenAiToolName tool.name = true
    · rw [if_pos wire, ← List.append_assoc] at nodup
      rw [if_pos wire, if_pos wire, ← List.append_assoc]
      have fresh : tool.name ∉ done := fun member =>
        List.disjoint_of_nodup_append nodup.of_append_left member (List.mem_singleton_self _)
      -- a wire name that is taken is taken by the name itself
      have free : names.wireToInternal[tool.name]? = none := by
        rw [Option.eq_none_iff_forall_ne_some]
        intro other taken
        have mapped := (projects.inverse other tool.name).2 taken
        have known := (projects.mapped other).1 (by rw [mapped]; rfl)
        rw [projects.identity other _ mapped (valid other known)] at fresh
        exact fresh known
      obtain ⟨names', inserted, projects'⟩ := projects.insert fresh free wire (fun _ => rfl) (.inl rfl)
      rw [inserted, ok_bind]
      refine ih projects' (fun name member => ?_) nodup
      rcases List.mem_append.1 member with earlier | here
      · exact valid name earlier
      · exact List.mem_singleton.1 here ▸ wire
    · rw [if_neg wire, List.nil_append] at nodup
      rw [if_neg wire, if_neg wire, List.nil_append, ok_bind]
      exact ih projects valid nodup

/-- **The second loop** finds a wire name for every other name. -/
theorem addProjected_all {n : Nat} (tools : List ToolDescriptor) (projects : Projects done names)
    (nodup : (done ++ namesWhere false tools).Nodup)
    (room : (done ++ namesWhere false tools).length ≤ n)
    (distinct : ∀ tool ∈ tools, ∀ salt ≤ n, ∀ salt' ≤ n,
      digestAlias hash tool.name salt = digestAlias hash tool.name salt' → salt = salt') :
    ∃ names', tools.foldlM (addProjected hash) names = .ok names' ∧
      Projects (done ++ namesWhere false tools) names' := by
  induction tools generalizing done names with
  | nil =>
    refine ⟨names, rfl, ?_⟩
    rw [namesWhere, List.map_nil, List.filter_nil, List.append_nil]
    exact projects
  | cons tool tools ih =>
    have later := fun other member => distinct other (List.mem_cons_of_mem _ member)
    rw [namesWhere_cons] at nodup room ⊢
    rw [List.foldlM_cons, addProjected]
    by_cases wire : isOpenAiToolName tool.name = true
    · rw [wire, if_neg (by decide), List.nil_append] at nodup room
      rw [if_pos wire, wire, if_neg (by decide), List.nil_append, ok_bind]
      exact ih projects nodup room later
    · have none : isOpenAiToolName tool.name = false := Bool.eq_false_iff.2 wire
      rw [none, if_pos rfl, ← List.append_assoc] at nodup room
      rw [if_neg wire, none, if_pos rfl, ← List.append_assoc]
      have fresh : tool.name ∉ done := fun member =>
        List.disjoint_of_nodup_append nodup.of_append_left member (List.mem_singleton_self _)
      have few : names.wireToInternal.size ≤ n := by
        rw [projects.size]
        rw [List.length_append, List.length_append] at room
        omega
      obtain ⟨wireName, found, free, valid, shape⟩ : ∃ wireName,
          projectedName hash tool.name names.wireToInternal = .ok wireName ∧
            names.wireToInternal[wireName]? = Option.none ∧ isOpenAiToolName wireName = true ∧
            (wireName = readableName tool.name ∨
              wireName.utf8ByteSize = maxOpenAiToolNameBytes) := by
        rw [projectedName]
        split
        · rename_i readable
          rw [Bool.and_eq_true, Bool.not_eq_true', Std.ExtTreeMap.contains_eq_isSome_getElem?,
            Option.isSome_eq_false_iff, Option.isNone_iff_eq_none] at readable
          exact ⟨_, rfl, readable.2, readable.1, .inl rfl⟩
        · obtain ⟨wireName, found, free, valid, size⟩ := digestToolAlias_ok hash
            fun salt small salt' small' => distinct tool List.mem_cons_self salt
              (small.trans few) salt' (small'.trans few)
          exact ⟨wireName, found, free, valid, .inr size⟩
      obtain ⟨names', inserted, projects'⟩ := projects.insert fresh free valid
        (fun own => absurd own wire) (.inr shape)
      rw [found, ok_bind, inserted, ok_bind]
      exact ih projects' nodup room later

/-- **A mapping for distinct names.** -/
theorem fromRequest_ok {tools : List ToolDescriptor} (nodup : (tools.map (·.name)).Nodup)
    (distinct : AliasesDistinct hash tools) :
    ∃ names, OpenAiToolNames.fromRequest hash tools = .ok names ∧
      Projects (namesWhere true tools ++ namesWhere false tools) names := by
  have parts : (namesWhere true tools ++ namesWhere false tools).Perm (tools.map (·.name)) := by
    have split := List.filter_append_perm (isOpenAiToolName · == true) (tools.map (·.name))
    have rest : namesWhere false tools =
        (tools.map (·.name)).filter fun name => !(isOpenAiToolName name == true) :=
      List.filter_congr fun name _ => by cases isOpenAiToolName name <;> rfl
    rw [rest]
    exact split
  obtain ⟨names, first, projects⟩ := addIdentity_all tools .new nofun (by
    rw [List.nil_append]
    exact (parts.nodup_iff.2 nodup).of_append_left)
  rw [List.nil_append] at projects
  obtain ⟨names', second, projects'⟩ := addProjected_all tools projects (parts.nodup_iff.2 nodup)
    (by rw [parts.length_eq, List.length_map]) distinct
  exact ⟨names', by rw [OpenAiToolNames.fromRequest, first, ok_bind, second], projects'⟩

end YHarness.Model.Chat
