/-
# YHarness.Runtime.Environment -- what happens around an execution

Signals reach an execution without a write: its cancellation token is set, the
Runtime starts or stops accepting work.  Metadata writes (`set_thread_name`,
`create_checkpoint`, `create_snapshot`) move the coordinates of its Thread.
-/
import YHarness.Runtime.Loop

namespace YHarness.Runtime

open YHarness.Lib YHarness.Kernel
open YHarness.State (validatePendingEvent)

set_option autoImplicit false

/-! ## Signals -/

inductive SignalStep : World → World → Prop
  | cancel (w : World) : SignalStep w { w with cancelled := true }
  | phase (w : World) (acceptsWork : Bool) : SignalStep w { w with acceptsWork }

variable [Sha256]

/-- An execution that only signals reach. -/
def alone (thread : StoredThread) : Setting RuntimeCall RuntimeReply World where
  exec := World.Executes thread
  rely := Relation.ReflTransGen SignalStep

/-! ## Metadata -/

/-- The events that concern no Turn. -/
def isMetadata : StateEvent → Bool
  | .threadNamed _ | .checkpointCreated _ => true
  | _ => false

/-- A metadata call commits its event against the current head, in one step, and
the engine's cached head follows in another; a load may replace the cached head
and a conflict drop it.  The event id is generated and never met again. -/
inductive MetadataStep (thread : StoredThread) : World → World → Prop
  | append (w : World) (event : StateEvent) (eventId : EventId) (recordedAtMs : UInt64)
      (charge : Nat) (metadata : isMetadata event = true)
      (valid : validatePendingEvent
        ⟨eventId, thread.id, w.version, w.recoveryBytes, recordedAtMs, event⟩ = .ok charge) :
      MetadataStep thread w
        { w with version := w.version + 1, recoveryBytes := w.recoveryBytes + charge }
  | publish (w : World) (cached : Option Coordinates)
      (past : ∀ head ∈ cached, head.1 ≤ w.version) : MetadataStep thread w { w with cached }

/-- An execution among metadata writes. -/
def amongMetadata (thread : StoredThread) : Setting RuntimeCall RuntimeReply World where
  exec := World.Executes thread
  rely := Relation.ReflTransGen fun w v => SignalStep w v ∨ MetadataStep thread w v

end YHarness.Runtime
