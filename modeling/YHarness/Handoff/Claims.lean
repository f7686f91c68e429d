/-
# YHarness.Handoff.Claims -- one owner at a time

A claim is open from the transition that takes it until one that ends it (`Open`), and
`liveClaim` reads the owner and the expiration of the open claim off the history.
Both are what the status says (`Replays.live`, `Replays.open_iff`), and since a claim
is only taken from the queue, two claims never overlap: `claim_fencing`.
-/
import YHarness.Handoff.Commands

namespace YHarness.Handoff

open YHarness.Lib YHarness.Kernel

set_option autoImplicit false

/-! ## Claims of a history -/

namespace HumanHandoffTransitionKind

/-- The claim whose owner alone may cause a transition. -/
def owned? : HumanHandoffTransitionKind → Option HumanHandoffClaimId
  | claimRenewed claimId _ _ | claimReleased claimId _ | resolved claimId _ _ => some claimId
  | _ => none

/-- A transition returns a claimed Handoff to its queue. -/
def Frees (claimId : HumanHandoffClaimId) : HumanHandoffTransitionKind → Prop
  | claimReleased id _ | claimExpired id => id = claimId
  | _ => False

/-- A transition after which nothing follows. -/
def Ends : HumanHandoffTransitionKind → Prop
  | resolved .. | cancelled _ => True
  | _ => False

end HumanHandoffTransitionKind

/-- The claim whose owner alone may give a command. -/
def HumanHandoffCommandKind.owned? : HumanHandoffCommandKind → Option HumanHandoffClaimId
  | renewClaim claimId _ | releaseClaim claimId _ | resolve claimId _ _ => some claimId
  | _ => none

def HumanHandoffStatus.claim? : HumanHandoffStatus → Option HumanHandoffClaim
  | claimed claim => some claim
  | _ => none

/-- A claim was taken and neither returned nor ended with the Handoff. -/
def Open (past : List HumanHandoffTransition) (claimId : HumanHandoffClaimId) : Prop :=
  ∃ before t between, past = before ++ t :: between ∧ t.kind.claim? = some claimId ∧
    ∀ u ∈ between, ¬ u.kind.Frees claimId ∧ ¬ u.kind.Ends

/-- The open claim after one more transition. -/
def liveAfter (live : Option HumanHandoffClaim) (t : HumanHandoffTransition) :
    Option HumanHandoffClaim :=
  match t.kind with
  | .claimed claimId leaseDurationMs =>
    some ⟨claimId, t.actor, t.appliedAtMs, t.appliedAtMs + leaseDurationMs⟩
  | .claimRenewed _ leaseDurationMs _ =>
    live.map fun claim => { claim with expiresAtMs := t.appliedAtMs + leaseDurationMs }
  | _ => none

/-- The open claim of a history, with its owner and its expiration. -/
def liveClaim (past : List HumanHandoffTransition) : Option HumanHandoffClaim :=
  past.foldl liveAfter none

@[simp] theorem liveClaim_concat (past : List HumanHandoffTransition)
    (t : HumanHandoffTransition) : liveClaim (past ++ [t]) = liveAfter (liveClaim past) t := by
  simp [liveClaim]

theorem open_nil (claimId : HumanHandoffClaimId) : ¬ Open [] claimId := by
  rintro ⟨before, t, between, parts, _⟩
  simp at parts

/-- A claim is open after one more transition that took it, or left it open. -/
theorem open_concat {past : List HumanHandoffTransition} {t : HumanHandoffTransition}
    {claimId : HumanHandoffClaimId} :
    Open (past ++ [t]) claimId ↔ t.kind.claim? = some claimId ∨
      (Open past claimId ∧ ¬ t.kind.Frees claimId ∧ ¬ t.kind.Ends) := by
  constructor
  · rintro ⟨before, s, between, parts, taken, kept⟩
    rcases concat_eq_split parts with ⟨rfl, rfl, rfl⟩ | ⟨rest, rfl, rfl⟩
    · exact .inl taken
    · refine .inr ⟨⟨before, s, rest, rfl, taken, fun u member => ?_⟩, ?_⟩
      · exact kept u (List.mem_append_left _ member)
      · exact kept t (List.mem_append_right _ (List.mem_singleton_self t))
  · rintro (taken | ⟨⟨before, s, between, rfl, taken, kept⟩, last⟩)
    · exact ⟨past, t, [], rfl, taken, nofun⟩
    · refine ⟨before, s, between ++ [t], by simp, taken, fun u member => ?_⟩
      rcases List.mem_append.1 member with earlier | added
      · exact kept u earlier
      · obtain rfl := List.mem_singleton.1 added
        exact last

theorem leaseExpiration_eq_ok {now durationMs expiresAtMs : UInt64}
    (ends : leaseExpiration now durationMs = .ok expiresAtMs) : expiresAtMs = now + durationMs := by
  unfold leaseExpiration at ends
  split at ends
  · cases ends
    rfl
  · cases ends

/-- A command and the transition that records it are for one owner. -/
theorem owned_recorded {kind : HumanHandoffTransitionKind} {command : HumanHandoffCommandKind}
    (recorded : transitionCommandKind kind = some command) : kind.owned? = command.owned? := by
  cases kind <;> cases recorded <;> rfl

section Moves

variable {used : List HumanHandoffClaimId} {now : UInt64} {actor : ActorIdentity}
  {status after : HumanHandoffStatus} {kind : HumanHandoffTransitionKind}

variable {claimId : HumanHandoffClaimId}

/-- A claim is taken from the queue. -/
theorem Moves.claims (moves : Moves used now actor status kind after)
    (taken : kind.claim? = some claimId) :
    status = .queued ∧ claimId ∉ used := by
  cases moves with
  | claim named lasts fresh ends =>
    cases taken
    exact ⟨rfl, fresh⟩
  | _ => cases taken

/-- Only the owner of the live claim renews, releases and resolves it. -/
theorem Moves.owner (moves : Moves used now actor status kind after)
    (owned : kind.owned? = some claimId) :
    ∃ claim, status = .claimed claim ∧ claim.id = claimId ∧ claim.owner = actor ∧
      now < claim.expiresAtMs := by
  cases moves with
  | renew mine active | release mine active | resolve mine active =>
    cases owned
    exact ⟨_, rfl, rfl, mine, active⟩
  | _ => cases owned

/-- A transition that ends the Handoff leaves it terminal. -/
theorem Moves.ends (moves : Moves used now actor status kind after)
    (live : after.isTerminal = false) : ¬ kind.Ends := by
  cases moves with
  | resolve | cancel => cases live
  | _ => exact fun ends => ends

end Moves

section Paths

variable [Sha256]

section Histories

variable {request : HandoffRequest} {ts : List HumanHandoffTransition}
  {status : HumanHandoffStatus}

/-- A live Handoff has not ended before. -/
theorem Replays.unended (replays : Replays request ts status) (live : status.isTerminal = false) :
    ∀ t ∈ ts, ¬ t.kind.Ends := by
  induction replays with
  | created _ creation =>
    intro t member ends
    rw [List.mem_singleton.1 member, creation.1.kind] at ends
    exact ends
  | moved _ _ moves ih =>
    intro t member
    rcases List.mem_append.1 member with earlier | last
    · exact ih moves.live t earlier
    · obtain rfl := List.mem_singleton.1 last
      exact moves.ends live

theorem Replays.endsAt (replays : Replays request ts status) :
    EndsAt (fun t => t.kind.Ends) ts := by
  cases replays with
  | created =>
    have empty : ∀ t ∈ ([] : List HumanHandoffTransition), ¬ t.kind.Ends := nofun
    exact EndsAt.concat _ empty
  | moved earlier _ moves => exact EndsAt.concat _ (Replays.unended earlier moves.live)

theorem Replays.claims_nodup (replays : Replays request ts status) : (claimsOf ts).Nodup := by
  induction replays with
  | created _ creation =>
    rw [claimsOf, List.filterMap_cons, creation.1.kind]
    exact List.nodup_nil
  | @moved past _ _ t _ _ moves ih =>
    rw [claimsOf_concat]
    cases taken : t.kind.claim? with
    | none =>
      rw [Option.toList_none, List.append_nil]
      exact ih
    | some claimId =>
      rw [Option.toList_some, ← List.concat_eq_append]
      exact ih.concat (moves.claims taken).2

/-- **The live claim of a history is the claim of the status.** -/
theorem Replays.live (replays : Replays request ts status) : liveClaim ts = status.claim? := by
  induction replays with
  | created _ creation =>
    obtain ⟨creation, rfl⟩ := creation
    rw [liveClaim, List.foldl_cons, liveAfter, creation.kind]
    rfl
  | @moved past before after t _ _ moves ih =>
    obtain ⟨sequence, commandId, commandSha256, now, actor, kind⟩ := t
    rw [liveClaim_concat, ih]
    dsimp only at moves
    cases moves with
    | claim named lasts fresh ends =>
      rw [leaseExpiration_eq_ok ends]
      rfl
    | renew owned active lasts ends longer =>
      rw [leaseExpiration_eq_ok ends]
      rfl
    | _ => rfl

variable {claimId : HumanHandoffClaimId}

/-- **A claim is open exactly when the status says so.** -/
theorem Replays.open_iff (replays : Replays request ts status) :
    Open ts claimId ↔ ∃ claim, status = .claimed claim ∧ claim.id = claimId := by
  induction replays with
  | @created t _ _ creation =>
    obtain ⟨creation, rfl⟩ := creation
    have opened := @open_concat [] t claimId
    rw [List.nil_append] at opened
    rw [opened, creation.kind]
    constructor
    · rintro (taken | ⟨impossible, _⟩)
      · cases taken
      · exact absurd impossible (open_nil claimId)
    · rintro ⟨claim, held, _⟩
      cases held
  | @moved past before after t earlier _ moves ih =>
    rw [open_concat, ih]
    generalize t.kind = kind at moves
    constructor
    · rintro (taken | ⟨⟨claim, rfl, rfl⟩, kept, unended⟩)
      · cases moves with
        | claim =>
          cases taken
          exact ⟨_, rfl, rfl⟩
        | _ => cases taken
      · cases moves with
        | renew => exact ⟨_, rfl, rfl⟩
        | release | expire => exact absurd rfl kept
        | resolve | cancel => exact absurd trivial unended
    · rintro ⟨claim, held, rfl⟩
      cases moves with
      | claim =>
        cases held
        exact .inl rfl
      | renew =>
        cases held
        exact .inr ⟨⟨_, rfl, rfl⟩, id, id⟩
      | _ => cases held

/-- The transitions before a later one are a history too. -/
theorem Replays.take (replays : Replays request ts status) {past rest : List HumanHandoffTransition}
    (parts : ts = past ++ rest) (later : past ≠ []) : ∃ before, Replays request past before := by
  cases rest with
  | nil =>
    rw [List.append_nil] at parts
    exact ⟨status, parts ▸ replays⟩
  | cons t rest =>
    obtain ⟨before, _, earlier, _⟩ := replays.split parts later
    exact ⟨before, earlier⟩

/-- **Between two claims the first was returned to the queue.** -/
theorem Replays.between (replays : Replays request ts status)
    {before between after : List HumanHandoffTransition} {s t : HumanHandoffTransition}
    (parts : ts = before ++ s :: (between ++ t :: after)) {first second : HumanHandoffClaimId}
    (taken : s.kind.claim? = some first) (again : t.kind.claim? = some second) :
    ∃ u ∈ between, u.kind.Frees first := by
  have regrouped : ts = (before ++ s :: between) ++ t :: after := by
    rw [parts, List.append_assoc, List.cons_append]
  obtain ⟨_, _, earlier, _, moves⟩ := replays.split regrouped (by simp)
  obtain ⟨rfl, _⟩ := moves.claims again
  have closed : ¬ Open (before ++ s :: between) first := by
    rw [Replays.open_iff earlier]
    rintro ⟨claim, held, _⟩
    cases held
  by_contra kept
  refine closed ⟨before, s, between, rfl, taken, fun u member => ⟨fun frees => ?_, ?_⟩⟩
  · exact kept ⟨u, member, frees⟩
  · refine Replays.unended earlier rfl u ?_
    exact List.mem_append_right _ (List.mem_cons_of_mem _ member)

/-- A transition that is not the creation moves the history before it. -/
theorem Replays.moves_at (replays : Replays request ts status)
    {before after : List HumanHandoffTransition} {t : HumanHandoffTransition}
    (parts : ts = before ++ t :: after) (owned : t.kind.owned? = some claimId) :
    ∃ now next, Replays request before now ∧
      Moves (claimsOf before) t.appliedAtMs t.actor now t.kind next := by
  by_cases first : before = []
  · subst first
    obtain ⟨head, rest, same, _, creation⟩ := replays.creation
    rw [same] at parts
    cases parts
    rw [creation.kind] at owned
    cases owned
  · obtain ⟨now, next, earlier, _, moves⟩ := replays.split parts first
    exact ⟨now, next, earlier, moves⟩

end Histories

namespace HumanHandoff

/-- **Claims fence their owners.**  In every history at most one claim is open at any
point; between two claims the first was released or expired; a renewal, a release and a
resolution are by the owner of the live claim, before it expires, and so is every such
command that is applied; claim identities are used once; and nothing follows a
resolution or a cancellation. -/
theorem claim_fencing {h : HumanHandoff} (reached : h.Reachable) :
    (∀ past rest, h.transitions = past ++ rest →
      ∀ left right, Open past left → Open past right → left = right) ∧
    (∀ before s between t after, h.transitions = before ++ s :: (between ++ t :: after) →
      ∀ first second, s.kind.claim? = some first → t.kind.claim? = some second →
        ∃ u ∈ between, u.kind.Frees first) ∧
    (∀ before t after, h.transitions = before ++ t :: after →
      ∀ claimId, t.kind.owned? = some claimId →
        ∃ claim, liveClaim before = some claim ∧ Open before claimId ∧ claim.id = claimId ∧
          claim.owner = t.actor ∧ t.appliedAtMs < claim.expiresAtMs) ∧
    (∀ command now authority next, h.apply command now authority = .ok (next, .applied) →
      ∀ claimId, command.kind.owned? = some claimId →
        ∃ claim, h.status = .claimed claim ∧ liveClaim h.transitions = some claim ∧
          claim.id = claimId ∧ claim.owner = authority.actor ∧ now < claim.expiresAtMs) ∧
    (claimsOf h.transitions).Nodup ∧
    (∀ before t after, h.transitions = before ++ t :: after → t.kind.Ends → after = []) := by
  have replays := reached.replays
  refine ⟨?_, ?_, ?_, ?_, replays.claims_nodup, replays.endsAt⟩
  · intro past rest parts left right openLeft openRight
    by_cases first : past = []
    · subst first
      exact absurd openLeft (open_nil left)
    · obtain ⟨before, earlier⟩ := replays.take parts first
      obtain ⟨claim, rfl, rfl⟩ := earlier.open_iff.1 openLeft
      obtain ⟨claim', held, rfl⟩ := earlier.open_iff.1 openRight
      cases held
      rfl
  · intro before s between t after parts first second taken again
    exact replays.between parts taken again
  · intro before t after parts claimId owned
    obtain ⟨now, next, earlier, moves⟩ := replays.moves_at parts owned
    obtain ⟨claim, rfl, named, mine, active⟩ := moves.owner owned
    exact ⟨claim, earlier.live, earlier.open_iff.2 ⟨claim, rfl, named⟩, named, mine, active⟩
  · intro command now authority next accepted claimId owned
    obtain ⟨kind, after, _, admits, _⟩ := (apply_eq_applied replays).1 accepted
    have asked : kind.owned? = some claimId := (owned_recorded admits.recorded).trans owned
    obtain ⟨claim, held, named, mine, active⟩ := admits.moves.owner asked
    refine ⟨claim, held, ?_, named, mine, active⟩
    rw [replays.live, held]
    rfl

end HumanHandoff

end Paths

namespace HumanHandoff

section Sample

attribute [local instance] constantSha256

example : (claimsOf sampleHandoff.transitions).length = 2 := by decide +kernel

/-- The transitions of the sample: a claim that expires and one that is released. -/
theorem claim_fencing_sample :
    claimsOf sampleHandoff.transitions = ["first", "second"] ∧
      (claimsOf sampleHandoff.transitions).Nodup ∧
      (∀ before s between t after,
        sampleHandoff.transitions = before ++ s :: (between ++ t :: after) →
        ∀ first second, s.kind.claim? = some first → t.kind.claim? = some second →
          ∃ u ∈ between, u.kind.Frees first) := by
  obtain ⟨_, between, _, _, distinct, _⟩ := claim_fencing sampleHandoff_reachable
  exact ⟨by decide +kernel, distinct, between⟩

end Sample

end HumanHandoff

end YHarness.Handoff
