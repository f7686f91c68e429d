/-
# YHarness.Effects.Idempotency -- one Effect for each idempotency coordinate

Callers create, load and command Effects in any order, each call one step of the
store.  Whatever they do, the store holds a sound ledger (`run_refines`), so that a
coordinate belongs to one Effect and the request that created it is answered with
that Effect as it is now (`idempotent_ledger`).  Of a table this is so when it gives every
input back as it was written; then the map and the table answer alike, but for creation
times a table has no room for.
-/
import YHarness.Effects.Stores

namespace YHarness.Effects

open YHarness.Lib YHarness.Kernel

set_option autoImplicit false

/-! ## Calls -/

inductive EffectCall where
  | create (effectId : EffectId) (request : EffectCreateRequest) (appliedAtMs : UInt64)
      (authority : AuthorityContext)
  | load (effectId : EffectId) (authority : AuthorityContext)
  | apply (effectId : EffectId) (expectedRevision : UInt64) (command : EffectCommand)
      (appliedAtMs : UInt64) (authority : AuthorityContext)

inductive EffectAnswer where
  | created (snapshot : EffectSnapshot)
  | loaded (snapshot : Option EffectSnapshot)
  | applied (result : EffectCommandResult)

/-- A table has room for the creation time of a call. -/
def EffectCall.Timely : EffectCall → Prop
  | .create _ _ appliedAtMs _ => appliedAtMs.toNat < 2 ^ 63
  | _ => True

/-- The input of an Effect that a call creates is read as it was written. -/
def EffectCall.Exact [NumberReader] : EffectCall → Prop
  | .create _ request _ _ => ReadExactly request.input
  | _ => True

instance : DecidablePred EffectCall.Timely
  | .create _ _ _ _ => inferInstanceAs (Decidable (_ < _))
  | .load _ _ => .isTrue trivial
  | .apply _ _ _ _ _ => .isTrue trivial

instance [NumberReader] : DecidablePred EffectCall.Exact
  | .create _ request _ _ => inferInstanceAs (Decidable (ReadExactly request.input))
  | .load _ _ => .isTrue trivial
  | .apply _ _ _ _ _ => .isTrue trivial

inductive StoreKind where
  | memory
  | sqlite

section Runs

variable [Sha256]

namespace EffectCoordinator

def empty : StoreKind → EffectCoordinator
  | .memory => memory ⟨∅, ∅⟩
  | .sqlite => sqlite ∅

def call (store : EffectCoordinator) :
    EffectCall → Except HarnessError (EffectAnswer × EffectCoordinator)
  | .create effectId request appliedAtMs authority => do
    let (snapshot, next) ← store.createAs effectId request appliedAtMs authority
    .ok (.created snapshot, next)
  | .load effectId authority => do
    let snapshot ← store.loadAs effectId authority
    .ok (.loaded snapshot, store)
  | .apply effectId expectedRevision command appliedAtMs authority => do
    let (result, next) ← store.applyAs effectId expectedRevision command appliedAtMs authority
    .ok (.applied result, next)

/-- The answer and the store after a call: one that fails leaves the store. -/
def step (store : EffectCoordinator) (c : EffectCall) :
    Except HarnessError EffectAnswer × EffectCoordinator :=
  match store.call c with
  | .ok (answer, next) => (.ok answer, next)
  | .error e => (.error e, store)

/-- The answers and the store after calls in the order in which they ran. -/
def run (store : EffectCoordinator) :
    List EffectCall → List (Except HarnessError EffectAnswer) × EffectCoordinator
  | [] => ([], store)
  | c :: rest =>
    let after := (store.step c).2.run rest
    ((store.step c).1 :: after.1, after.2)

end EffectCoordinator

namespace EffectLedger

noncomputable def call (held : EffectLedger) (admits : UInt64 → Except HarnessError Unit) :
    EffectCall → Except HarnessError (EffectAnswer × EffectLedger)
  | .create effectId request appliedAtMs authority => do
    let (snapshot, next) ← held.create admits effectId request appliedAtMs authority
    .ok (.created snapshot, next)
  | .load effectId authority => do
    let snapshot ← held.load effectId authority
    .ok (.loaded snapshot, held)
  | .apply effectId expectedRevision command appliedAtMs authority => do
    let (result, next) ← held.apply effectId expectedRevision command appliedAtMs authority
    .ok (.applied result, next)

noncomputable def step (held : EffectLedger) (admits : UInt64 → Except HarnessError Unit)
    (c : EffectCall) : Except HarnessError EffectAnswer × EffectLedger :=
  match held.call admits c with
  | .ok (answer, next) => (.ok answer, next)
  | .error e => (.error e, held)

noncomputable def run (held : EffectLedger) (admits : UInt64 → Except HarnessError Unit) :
    List EffectCall → List (Except HarnessError EffectAnswer) × EffectLedger
  | [] => ([], held)
  | c :: rest =>
    let after := (held.step admits c).2.run admits rest
    ((held.step admits c).1 :: after.1, after.2)

theorem create_congr (held : EffectLedger) {admits admits' : UInt64 → Except HarnessError Unit}
    {appliedAtMs : UInt64} (same : admits appliedAtMs = admits' appliedAtMs) (effectId : EffectId)
    (request : EffectCreateRequest) (authority : AuthorityContext) :
    held.create admits effectId request appliedAtMs authority =
      held.create admits' effectId request appliedAtMs authority := by
  simp only [create, same]

/-- Timely calls are answered alike by a store without a limit and by a table. -/
theorem step_timely (held : EffectLedger) {c : EffectCall} (timely : c.Timely)
    (effects : OrdMap StoreKey EffectRow) (state : MemoryEffectState) :
    held.step (EffectCoordinator.memory state).admits c =
      held.step (EffectCoordinator.sqlite effects).admits c := by
  cases c with
  | create effectId request appliedAtMs authority =>
    have small : appliedAtMs.toNat < 2 ^ 63 := timely
    have room : (EffectCoordinator.memory state).admits appliedAtMs =
        (EffectCoordinator.sqlite effects).admits appliedAtMs := by
      dsimp only [EffectCoordinator.admits]
      rw [sqlCreationTime, i64TryFrom, if_pos small]
      rfl
    rw [step, step, call, call, create_congr held room]
  | load => rfl
  | apply => rfl

end EffectLedger

/-! ## Runs -/

namespace EffectCoordinator

variable {store : EffectCoordinator} {held : EffectLedger}

/-- The store gives the input of an Effect that the call adds back as it was written. -/
def Given (store : EffectCoordinator) (held : EffectLedger) : EffectCall → Prop
  | .create _ request _ authority =>
    held.boundTo (EffectLedger.asks request authority.tenantId) = none →
      store.Rereads request.input
  | _ => True

theorem memory_given (state : MemoryEffectState) (held : EffectLedger) (c : EffectCall) :
    (memory state).Given held c := by
  cases c with
  | create => exact fun _ => trivial
  | _ => trivial

theorem sqlite_given (effects : OrdMap StoreKey EffectRow) (held : EffectLedger)
    {c : EffectCall} (exact : c.Exact) : (sqlite effects).Given held c := by
  cases c with
  | create => exact fun _ => exact
  | _ => trivial

theorem call_refines (holds : store.Holds held) {c : EffectCall} (given : store.Given held c) :
    Alike store.Matches (store.call c) (held.call store.admits c) := by
  cases c with
  | create effectId request appliedAtMs authority =>
    exact (createAs_refines holds request appliedAtMs given).bind fun left right same =>
      .ok ⟨congrArg EffectAnswer.created same.answer, same.holds, same.admits, same.rereads⟩
  | load effectId authority =>
    rw [call, EffectLedger.call, loadAs_refines holds]
    exact .shared _ fun _ _ => .ok ⟨rfl, holds, rfl, rfl⟩
  | apply effectId expectedRevision command appliedAtMs authority =>
    exact (applyAs_refines holds expectedRevision command appliedAtMs).bind
      fun left right same =>
        .ok ⟨congrArg EffectAnswer.applied same.answer, same.holds, same.admits, same.rereads⟩

/-- **One call**: the answer of the ledger, and a store that holds what it leaves. -/
theorem step_refines (holds : store.Holds held) {c : EffectCall} (given : store.Given held c) :
    (store.step c).1 = (held.step store.admits c).1 ∧
      (store.step c).2.Holds (held.step store.admits c).2 ∧
      (store.step c).2.admits = store.admits ∧ (store.step c).2.Rereads = store.Rereads := by
  have refines := call_refines holds given
  unfold step EffectLedger.step
  generalize store.call c = left at refines
  generalize held.call store.admits c = right at refines
  cases refines with
  | ok same => exact ⟨congrArg Except.ok same.answer, same.holds, same.admits, same.rereads⟩
  | error e => exact ⟨rfl, holds, rfl, rfl⟩

/-- **Any run of calls.** -/
theorem run_refines (holds : store.Holds held) {calls : List EffectCall}
    (given : ∀ c ∈ calls, ∀ ledger, store.Given ledger c) :
    (store.run calls).1 = (held.run store.admits calls).1 ∧
      (store.run calls).2.Holds (held.run store.admits calls).2 ∧
      (store.run calls).2.admits = store.admits := by
  induction calls generalizing store held with
  | nil => exact ⟨rfl, holds, rfl⟩
  | cons c rest ih =>
    obtain ⟨answer, after, kind, rereads⟩ :=
      step_refines holds (given c List.mem_cons_self held)
    have later : ∀ c' ∈ rest, ∀ ledger, (store.step c).2.Given ledger c' := by
      intro c' member ledger
      have before := given c' (List.mem_cons_of_mem _ member) ledger
      cases c' with
      | create => exact fun free => rereads ▸ before free
      | _ => trivial
    obtain ⟨answers, last, same⟩ := ih after later
    rw [kind] at answers last same
    exact ⟨congrArg₂ List.cons answer answers, last, same⟩

/-- **Two stores of one ledger answer alike** the calls that the table has room for and gives
back. -/
theorem same_answers {state : MemoryEffectState} {effects : OrdMap StoreKey EffectRow}
    (left : (memory state).Holds held) (right : (sqlite effects).Holds held)
    {calls : List EffectCall} (timely : ∀ c ∈ calls, c.Timely) (exact : ∀ c ∈ calls, c.Exact) :
    ((memory state).run calls).1 = ((sqlite effects).run calls).1 := by
  rw [(run_refines left fun c _ ledger => memory_given state ledger c).1,
    (run_refines right fun c called ledger => sqlite_given effects ledger (exact c called)).1]
  clear left right exact
  induction calls generalizing held with
  | nil => rfl
  | cons c rest ih =>
    have same := held.step_timely (timely c List.mem_cons_self) effects state
    show _ :: _ = _ :: _
    rw [same, ih fun c' later => timely c' (List.mem_cons_of_mem _ later)]

theorem empty_holds (kind : StoreKind) : (empty kind).Holds fun _ => none := by
  cases kind with
  | memory => exact memory_empty_holds
  | sqlite => exact sqlite_empty_holds

/-! ## Idempotency -/

/-- What a store promises about the Effects it keeps.  A creation is judged by its
request and its actor; `apart` says that SHA-256 tells those of another creation from
the ones on record. -/
structure Idempotent (store : EffectCoordinator) (held : EffectLedger) : Prop where
  keeps : store.Keeps held
  revision : ∀ key snapshot, held key = some snapshot → snapshot.key = key ∧
    snapshot.revision.toNat = snapshot.effect.transitions.length
  unique : ∀ leftKey rightKey left right, held leftKey = some left → held rightKey = some right →
    left.coordinate = right.coordinate → leftKey = rightKey
  same : ∀ key canonical, held key = some canonical →
    ∀ request actor, canonical.effect.creation = some (request, actor) →
    ∀ effectId, validateIdentity "Effect" effectId = .ok () →
    (effectId = canonical.id ∨ held (storageKey effectId canonical.tenantId) = none) →
    ∀ appliedAtMs, appliedAtMs ≠ 0 →
      (store.step (.create effectId request appliedAtMs ⟨actor, canonical.tenantId⟩)).1 =
        .ok (.created canonical) ∧
      (store.step (.create effectId request appliedAtMs ⟨actor, canonical.tenantId⟩)).2.Keeps held
  different : ∀ key canonical, held key = some canonical →
    ∀ request (authority : AuthorityContext),
    canonical.coordinate = EffectLedger.asks request authority.tenantId →
    canonical.effect.creation ≠ some (request, authority.actor) →
    (∀ key snapshot, held key = some snapshot →
      snapshot.effect.TellsApart request authority.actor) →
    ∀ effectId appliedAtMs,
      (∃ e, (store.step (.create effectId request appliedAtMs authority)).1 = .error e) ∧
      (store.step (.create effectId request appliedAtMs authority)).2 = store

theorem Holds.idempotent (holds : store.Holds held) : Idempotent store held where
  keeps := holds.keeps
  revision := fun key snapshot kept =>
    ⟨(holds.sound.sound _ _ kept).key, (holds.sound.sound _ _ kept).revision⟩
  unique := holds.sound.unique
  same := by
    intro key canonical kept request actor created effectId identity proposed appliedAtMs positive
    have stored := holds.sound.sound _ _ kept
    rw [← stored.key] at kept
    have bound : held.boundTo (EffectLedger.asks request canonical.tenantId) = some canonical := by
      obtain ⟨operation, idempotencyKey⟩ :=
        EffectLedger.coordinate_of_creation stored.reached created
      refine holds.sound.boundTo_eq_some.2 ⟨kept, ?_⟩
      rw [EffectSnapshot.coordinate, EffectLedger.asks, operation, idempotencyKey]
    have given : store.Given held
        (.create effectId request appliedAtMs ⟨actor, canonical.tenantId⟩) := by
      intro free
      rw [bound] at free
      cases free
    obtain ⟨answer, after, _⟩ := step_refines holds given
    have canonically : held.step store.admits
        (.create effectId request appliedAtMs ⟨actor, canonical.tenantId⟩) =
          (.ok (.created canonical), held) := by
      rw [EffectLedger.step, EffectLedger.call,
        holds.sound.create_same kept created positive identity proposed]
      rfl
    rw [canonically] at answer after
    exact ⟨answer, after.keeps⟩
  different := by
    intro key canonical kept request authority asked different apart effectId appliedAtMs
    have stored := holds.sound.sound _ _ kept
    have bound : held.boundTo (EffectLedger.asks request authority.tenantId) = some canonical :=
      holds.sound.boundTo_eq_some.2 ⟨stored.key.symm ▸ kept, asked⟩
    obtain ⟨e, fails⟩ :=
      holds.sound.create_different bound different apart effectId appliedAtMs store.admits
    have refines : Alike store.Matches (store.createAs effectId request appliedAtMs authority)
        (held.create store.admits effectId request appliedAtMs authority) :=
      createAs_refines holds request appliedAtMs fun free => by
        rw [bound] at free
        cases free
    rw [fails] at refines
    have failed : store.call (.create effectId request appliedAtMs authority) = .error e := by
      cases created : store.createAs effectId request appliedAtMs authority with
      | ok result =>
        rw [created] at refines
        cases refines
      | error e' =>
        rw [created] at refines
        cases refines
        rw [call, created]
        rfl
    rw [step, failed]
    exact ⟨⟨e, rfl⟩, rfl⟩

/-- **Whatever was called, an idempotency coordinate belongs to one Effect**, its request
is answered with that Effect and another request fails: always in the map, and in the table
when it gives every input back as it was written.  Then the map and the table answer timely
calls alike. -/
theorem idempotent_ledger (calls : List EffectCall) :
    (∃ held, Idempotent ((empty .memory).run calls).2 held) ∧
      ((∀ c ∈ calls, c.Exact) → ∃ held, Idempotent ((empty .sqlite).run calls).2 held) ∧
      ((∀ c ∈ calls, c.Timely) → (∀ c ∈ calls, c.Exact) →
        ((empty .memory).run calls).1 = ((empty .sqlite).run calls).1) := by
  refine ⟨?_, fun exact => ?_, fun timely exact => ?_⟩
  · obtain ⟨_, holds, _⟩ :=
      run_refines (empty_holds .memory) fun c _ ledger => memory_given _ ledger c
    exact ⟨_, holds.idempotent⟩
  · obtain ⟨_, holds, _⟩ := run_refines (empty_holds .sqlite) fun c called ledger =>
      sqlite_given _ ledger (exact c called)
    exact ⟨_, holds.idempotent⟩
  · exact same_answers (empty_holds .memory) (empty_holds .sqlite) timely exact

end EffectCoordinator

end Runs

/-! ## A sample -/

namespace EffectCoordinator

section Drift

/-- SHA-256 that tells two neighbouring fractions apart, beside a reader that does not. -/
@[reducible] def driftSha256 : Sha256 where
  toNumberReader := fractionReader
  digest
    | .json (.num "0.9452706955539224") =>
      "2c26b46b68ffc68ff99b453c1d30413413422d706483bfa0f98a5e886266e7ae"
    | _ => constantSha256.digest (.json .null)
  digest_lower input := by
    split <;> decide +kernel

/-- A creation, a load and the creation again. -/
def driftCalls : List EffectCall :=
  let request := { Effect.sampleRequest with input := .num "0.9452706955539223" }
  [.create "effect-1" request 10 (Effect.sampleAuthority "creator"),
    .load "effect-1" (Effect.sampleAuthority "creator"),
    .create "effect-1" request 11 (Effect.sampleAuthority "creator")]

end Drift

section Sample

attribute [local instance] constantSha256

def anotherRequest : EffectCreateRequest :=
  { Effect.sampleRequest with commandId := "create-2", idempotencyKey := "mail-43" }

/-- Two Effects, the first request again under the identity of the second, and a
creation far in the future. -/
def sampleCalls : List EffectCall :=
  [.create "effect-1" Effect.sampleRequest 10 (Effect.sampleAuthority "creator"),
    .create "effect-2" anotherRequest 10 (Effect.sampleAuthority "creator"),
    .create "effect-2" Effect.sampleRequest 11 (Effect.sampleAuthority "creator"),
    .create "effect-3" { anotherRequest with commandId := "create-3", idempotencyKey := "mail-44" }
      9223372036854775808 (Effect.sampleAuthority "creator")]

/-- The same request of the same actor fails where it proposes the identity of another
Effect, the two stores differ on a creation time from 2^63 on, and a table does not find the
Effect it created again when its input is read back as another fraction. -/
theorem idempotent_ledger_limits :
    ((empty .memory).run sampleCalls).1.map (·.toOption.isSome) = [true, true, false, true] ∧
      ((empty .sqlite).run sampleCalls).1.map (·.toOption.isSome) = [true, true, false, false] ∧
      ((empty .memory).run sampleCalls).1 ≠ ((empty .sqlite).run sampleCalls).1 ∧
      (@run driftSha256 (empty .memory) driftCalls).1.map (·.toOption.isSome) =
        [true, true, true] ∧
      (@run driftSha256 (empty .sqlite) driftCalls).1.map (·.toOption.isSome) =
        [true, false, false] := by
  have memoryRun : ((empty .memory).run sampleCalls).1.map (·.toOption.isSome) =
      [true, true, false, true] := by decide +kernel
  have sqliteRun : ((empty .sqlite).run sampleCalls).1.map (·.toOption.isSome) =
      [true, true, false, false] := by decide +kernel
  refine ⟨memoryRun, sqliteRun, fun same => ?_, by decide +kernel, by decide +kernel⟩
  rw [same, sqliteRun] at memoryRun
  exact absurd memoryRun (by decide)

theorem idempotent_ledger_sample :
    (∃ held, Idempotent ((empty .sqlite).run (sampleCalls.take 3)).2 held) ∧
      ((empty .memory).run (sampleCalls.take 3)).1 =
        ((empty .sqlite).run (sampleCalls.take 3)).1 := by
  obtain ⟨_, idempotent, alike⟩ := idempotent_ledger (sampleCalls.take 3)
  have called : ∀ c ∈ sampleCalls.take 3, c.Timely ∧ c.Exact := by decide +kernel
  exact ⟨idempotent fun c member => (called c member).2,
    alike (fun c member => (called c member).1) fun c member => (called c member).2⟩

end Sample

end EffectCoordinator

end YHarness.Effects
