/-
# YHarness.Lib.Ledger -- histories that a fold accepts

A ledger is checked by folding a partial step over its entries.  The rules here
speak about the entries that were accepted so far: an invariant of past entries
and state holds of every accepted history (`foldlM_history`), and requests of a
history are each followed by an answer (`Answered`), which one more entry keeps,
settles or leaves open.  A ledger whose first entry creates what the later ones move is
a history of its own kind (`Replays`), and a fold whose steps say the same accepts
nothing else (`Replays.foldlM_eq_ok`).
-/
import Mathlib.Data.List.Induction
import Mathlib.Data.List.Nodup
import YHarness.Lib.Check

namespace YHarness.Lib

set_option autoImplicit false

variable {ε α β : Type}

/-- What holds at the start and is kept by every accepted entry holds of every
accepted history. -/
theorem foldlM_history {f : β → α → Except ε β} (holds : List α → β → Prop) {start : β}
    (first : holds [] start)
    (push : ∀ past b a next, past.foldlM f start = .ok b → holds past b → f b a = .ok next →
      holds (past ++ [a]) next)
    {xs : List α} {b : β} (ran : xs.foldlM f start = .ok b) : holds xs b := by
  induction xs using List.reverseRecOn generalizing b with
  | nil =>
    rw [List.foldlM_nil] at ran
    cases ran
    exact first
  | append_singleton xs a ih =>
    obtain ⟨middle, before, last⟩ := foldlM_concat_eq_ok.1 ran
    exact push xs middle a b before (ih before) last

section Keys

variable {κ : Type} [BEq κ] [LawfulBEq κ] {key : α → κ} {k : κ} {xs : List α} {x : α}

theorem find?_key_eq_none : xs.find? (fun x => key x == k) = none ↔ k ∉ xs.map key := by
  simp only [List.find?_eq_none, List.mem_map, beq_iff_eq, not_exists, not_and]

/-- Where no two entries share a key, the one with the key is found. -/
theorem find?_key_eq_some (distinct : (xs.map key).Nodup) :
    xs.find? (fun x => key x == k) = some x ↔ x ∈ xs ∧ key x = k := by
  have here : ∀ {y}, xs.find? (fun x => key x == k) = some y → y ∈ xs ∧ key y = k := by
    intro y found
    have same := List.find?_some found
    exact ⟨List.mem_of_find?_eq_some found, beq_iff_eq.1 same⟩
  refine ⟨here, fun ⟨member, named⟩ => ?_⟩
  have present : (xs.find? fun x => key x == k).isSome :=
    List.find?_isSome.2 ⟨x, member, beq_iff_eq.2 named⟩
  obtain ⟨y, found⟩ := Option.isSome_iff_exists.1 present
  obtain ⟨among, same⟩ := here found
  rw [found, List.inj_on_of_nodup_map distinct among member (same.trans named.symm)]

end Keys

theorem singleton_eq_split {before after : List α} {x a : α}
    (split : [x] = before ++ a :: after) : before = [] := by
  have single := congrArg List.length split
  rw [List.length_singleton, List.length_append, List.length_cons] at single
  exact List.length_eq_zero_iff.1 (by omega)

/-- Where an entry of a history with one more entry stands. -/
theorem concat_eq_split {xs before after : List α} {x a : α}
    (split : xs ++ [x] = before ++ a :: after) :
    (after = [] ∧ a = x ∧ before = xs) ∨
      ∃ rest, after = rest ++ [x] ∧ xs = before ++ a :: rest := by
  rcases List.eq_nil_or_concat' after with rfl | ⟨rest, last, rfl⟩
  · obtain ⟨rfl, same⟩ := List.append_inj' split rfl
    exact .inl ⟨rfl, (List.singleton_inj.1 same).symm, rfl⟩
  · rw [← List.cons_append, ← List.append_assoc] at split
    obtain ⟨rfl, same⟩ := List.append_inj' split rfl
    rw [List.singleton_inj.1 same]
    exact .inr ⟨rest, rfl, rfl⟩

/-- Every request is followed by an answer. -/
def Answered (request : α → Prop) (answer : α → α → Prop) (history : List α) : Prop :=
  ∀ before a after, history = before ++ a :: after → request a → ∃ b ∈ after, answer a b

namespace Answered

variable {request other : α → Prop} {answer : α → α → Prop} {history : List α} {x : α}

theorem nil : Answered request answer ([] : List α) := by
  intro before a after split
  simp at split

theorem imp (answered : Answered request answer history) (fewer : ∀ a, other a → request a) :
    Answered other answer history :=
  fun before a after split asked => answered before a after split (fewer a asked)

/-- An entry that requests nothing leaves everything answered. -/
theorem concat (answered : Answered request answer history) (quiet : ¬ request x) :
    Answered request answer (history ++ [x]) := by
  intro before a after split asked
  rcases concat_eq_split split with ⟨_, rfl, _⟩ | ⟨rest, rfl, earlier⟩
  · exact absurd asked quiet
  · obtain ⟨b, member, answers⟩ := answered before a rest earlier asked
    exact ⟨b, List.mem_append_left _ member, answers⟩

/-- An entry that answers what was open leaves nothing open. -/
theorem close (answered : Answered (fun a => request a ∧ ¬ answer a x) answer history)
    (quiet : ¬ request x) : Answered request answer (history ++ [x]) := by
  intro before a after split asked
  rcases concat_eq_split split with ⟨_, rfl, _⟩ | ⟨rest, rfl, earlier⟩
  · exact absurd asked quiet
  · by_cases answers : answer a x
    · exact ⟨x, List.mem_append_right _ (List.mem_singleton_self x), answers⟩
    · obtain ⟨b, member, later⟩ := answered before a rest earlier ⟨asked, answers⟩
      exact ⟨b, List.mem_append_left _ member, later⟩

end Answered

/-- Nothing follows an entry that ends a history. -/
def EndsAt (final : α → Prop) (history : List α) : Prop :=
  ∀ before a after, history = before ++ a :: after → final a → after = []

/-- Without a final entry so far, the next one may be final. -/
theorem EndsAt.concat {final : α → Prop} {history : List α} (x : α)
    (open_ : ∀ a ∈ history, ¬ final a) : EndsAt final (history ++ [x]) := by
  intro before a after split ends
  rcases concat_eq_split split with ⟨rfl, _⟩ | ⟨rest, rfl, earlier⟩
  · rfl
  · exact absurd ends (open_ a (by rw [earlier]; simp))

/-! ## Histories that begin with a creation -/

section Replays

variable {σ : Type} {enters : List α → α → Prop} {creates : α → σ → Prop}
  {leads : List α → σ → α → σ → Prop}

/-- The entries are a history that projects to a state: the first one creates it and
each later one moves it, and each is recorded after the entries before it. -/
inductive Replays (enters : List α → α → Prop) (creates : α → σ → Prop)
    (leads : List α → σ → α → σ → Prop) : List α → σ → Prop
  | created {x : α} {p : σ} (recorded : enters [] x) (creation : creates x p) :
      Replays enters creates leads [x] p
  | moved {past : List α} {p p' : σ} {x : α} (replays : Replays enters creates leads past p)
      (recorded : enters past x) (moves : leads past p x p') :
      Replays enters creates leads (past ++ [x]) p'

namespace Replays

variable {entries : List α} {p : σ}

theorem ne_nil (replays : Replays enters creates leads entries p) : entries ≠ [] := by
  cases replays <;> simp

/-- The last entry was recorded after the ones before it. -/
theorem last (replays : Replays enters creates leads entries p) :
    ∃ past x, entries = past ++ [x] ∧ enters past x := by
  cases replays with
  | created recorded => exact ⟨[], _, rfl, recorded⟩
  | moved _ recorded => exact ⟨_, _, rfl, recorded⟩

/-- A history begins with a creation, and what moves keep they keep from it on. -/
theorem creation (keeps : σ → σ → Prop) (refl : ∀ p, keeps p p)
    (push : ∀ {past first p x p'}, keeps first p → leads past p x p' → keeps first p')
    (replays : Replays enters creates leads entries p) :
    ∃ x rest first, entries = x :: rest ∧ enters [] x ∧ creates x first ∧ keeps first p := by
  induction replays with
  | @created x p recorded creation => exact ⟨x, [], p, rfl, recorded, creation, refl p⟩
  | moved _ _ moves ih =>
    obtain ⟨x, rest, first, rfl, recorded, creation, kept⟩ := ih
    exact ⟨x, rest ++ [_], first, rfl, recorded, creation, push kept moves⟩

/-- A history up to one of its later entries. -/
theorem split {past rest : List α} {x : α} (replays : Replays enters creates leads entries p)
    (parts : entries = past ++ x :: rest) (later : past ≠ []) :
    ∃ before after, Replays enters creates leads past before ∧ enters past x ∧
      leads past before x after := by
  induction replays generalizing rest with
  | created => exact absurd (singleton_eq_split parts) later
  | moved before recorded moves ih =>
    rcases concat_eq_split parts with ⟨_, rfl, rfl⟩ | ⟨rest, rfl, earlier⟩
    · exact ⟨_, _, before, recorded, moves⟩
    · exact ih earlier

/-- What no entry may share with the entries before it, no two entries share. -/
theorem nodup {κ : Type} (key : α → κ) (fresh : ∀ {past x}, enters past x → key x ∉ past.map key)
    (replays : Replays enters creates leads entries p) : (entries.map key).Nodup := by
  induction replays with
  | created => exact List.nodup_singleton _
  | moved _ recorded _ ih =>
    rw [List.map_append, List.map_singleton, ← List.concat_eq_append]
    exact ih.concat (fresh recorded)

/-- A fold whose first step creates and whose later steps move accepts the histories;
`i` is what only the creation fixes. -/
theorem foldlM_family_eq_ok {ι : Type} {creates : ι → α → σ → Prop} {f : β → α → Except ε β}
    {start : β} (after : List α → ι → σ → β)
    (begins : ∀ {x b}, f start x = .ok b ↔
      ∃ i p, enters [] x ∧ creates i x p ∧ b = after [x] i p)
    (continues : ∀ {i past p x b}, Replays enters (creates i) leads past p →
      (f (after past i p) x = .ok b ↔
        ∃ p', enters past x ∧ leads past p x p' ∧ b = after (past ++ [x]) i p'))
    {b : β} : entries.foldlM f start = .ok b ↔
      (entries = [] ∧ b = start) ∨
        ∃ i p, Replays enters (creates i) leads entries p ∧ b = after entries i p := by
  constructor
  · refine foldlM_history (fun entries b => (entries = [] ∧ b = start) ∨
      ∃ i p, Replays enters (creates i) leads entries p ∧ b = after entries i p)
      (.inl ⟨rfl, rfl⟩) ?_
    rintro past _ x next _ (⟨rfl, rfl⟩ | ⟨i, p, replays, rfl⟩) stepped
    · obtain ⟨i, p, recorded, creation, rfl⟩ := begins.1 stepped
      exact .inr ⟨i, p, .created recorded creation, rfl⟩
    · obtain ⟨p', recorded, moves, rfl⟩ := (continues replays).1 stepped
      exact .inr ⟨i, p', .moved replays recorded moves, rfl⟩
  · rintro (⟨rfl, rfl⟩ | ⟨i, p, replays, rfl⟩)
    · rfl
    · induction replays with
      | created recorded creation =>
        exact bind_eq_ok.2 ⟨_, begins.2 ⟨i, _, recorded, creation, rfl⟩, rfl⟩
      | moved earlier recorded moves ih =>
        refine foldlM_concat_eq_ok.2 ⟨_, ih, ?_⟩
        exact (continues earlier).2 ⟨_, recorded, moves, rfl⟩

theorem foldlM_eq_ok {f : β → α → Except ε β} {start : β} (after : List α → σ → β)
    (begins : ∀ {x b}, f start x = .ok b ↔ ∃ p, enters [] x ∧ creates x p ∧ b = after [x] p)
    (continues : ∀ {past p x b}, Replays enters creates leads past p →
      (f (after past p) x = .ok b ↔
        ∃ p', enters past x ∧ leads past p x p' ∧ b = after (past ++ [x]) p'))
    {b : β} : entries.foldlM f start = .ok b ↔
      (entries = [] ∧ b = start) ∨
        ∃ p, Replays enters creates leads entries p ∧ b = after entries p := by
  have family := @foldlM_family_eq_ok ε α β σ enters leads entries Unit (fun _ => creates) f start
    (fun past _ => after past) (begins.trans ⟨fun found => ⟨(), found⟩, fun ⟨_, found⟩ => found⟩)
    continues b
  rwa [exists_const] at family

end Replays

end Replays

/-! ## Numbered entries -/

/-- The number of the entry after `count` others, counted from 1 in 64 bits. -/
def numberAfter (overflow : ε) (count : Nat) : Except ε UInt64 :=
  if count + 1 < UInt64.size then .ok (UInt64.ofNat (count + 1)) else .error overflow

theorem numberAfter_eq_ok {overflow : ε} {count : Nat} {number : UInt64} :
    numberAfter overflow count = .ok number ↔
      count + 1 < UInt64.size ∧ number = UInt64.ofNat (count + 1) := by
  unfold numberAfter
  split
  · rename_i small
    rw [ok_eq_ok, and_iff_right small]
  · rename_i large
    simp [large]

theorem sequence_toNat {n : Nat} (small : n < UInt64.size) : (UInt64.ofNat n).toNat = n :=
  UInt64.toNat_ofNat_of_lt' small

/-- The checks of an entry: its number, identity and time against the entries before it, and its
digest against its content. -/
theorem entry_eq_ok {κ γ : Type} [BEq κ] [LawfulBEq κ] {number expected now before : UInt64}
    {id : κ} {ids : List κ} {recorded : String} {counted : Except ε UInt64}
    {identity lower time actor : Except ε Unit} {computed : Except ε String} {full : Bool}
    {misnumbered early mismatched closed repeated : ε} {rest : UInt64 → Except ε γ} {r : γ} :
    (do
      rejectIf (number != expected) misnumbered
      let next ← counted
      identity
      lower
      time
      rejectIf (decide (now < before)) early
      actor
      let digest ← computed
      rejectIf (recorded != digest) mismatched
      rejectIf full closed
      rejectIf (ids.contains id) repeated
      rest next) = .ok r ↔
    number = expected ∧ identity = .ok () ∧ lower = .ok () ∧ time = .ok () ∧ before ≤ now ∧
      actor = .ok () ∧ computed = .ok recorded ∧ full = false ∧ id ∉ ids ∧
      ∃ next, counted = .ok next ∧ rest next = .ok r := by
  constructor
  · intro checked
    obtain ⟨sequence, checked⟩ := seq_eq_ok.1 checked
    obtain ⟨next, counts, checked⟩ := bind_eq_ok.1 checked
    obtain ⟨identified, checked⟩ := seq_eq_ok.1 checked
    obtain ⟨lowered, checked⟩ := seq_eq_ok.1 checked
    obtain ⟨timed, checked⟩ := seq_eq_ok.1 checked
    obtain ⟨ordered, checked⟩ := seq_eq_ok.1 checked
    obtain ⟨acted, checked⟩ := seq_eq_ok.1 checked
    obtain ⟨digest, digested, checked⟩ := bind_eq_ok.1 checked
    obtain ⟨matched, checked⟩ := seq_eq_ok.1 checked
    obtain ⟨room, checked⟩ := seq_eq_ok.1 checked
    obtain ⟨fresh, applied⟩ := seq_eq_ok.1 checked
    rw [rejectIf_bne] at sequence matched
    rw [rejectIf_decide, UInt64.not_lt] at ordered
    rw [rejectIf_eq_ok] at room fresh
    subst matched
    exact ⟨sequence, identified, lowered, timed, ordered, acted, digested, room,
      fun member => by simp [member] at fresh, next, counts, applied⟩
  · rintro ⟨sequence, identified, lowered, timed, ordered, acted, digested, room, fresh, next,
      counts, applied⟩
    refine seq_eq_ok.2 ⟨rejectIf_bne.2 sequence, bind_eq_ok.2 ⟨next, counts, ?_⟩⟩
    refine seq_eq_ok.2 ⟨identified, seq_eq_ok.2 ⟨lowered, seq_eq_ok.2 ⟨timed, ?_⟩⟩⟩
    refine seq_eq_ok.2 ⟨?_, seq_eq_ok.2 ⟨acted, bind_eq_ok.2 ⟨recorded, digested, ?_⟩⟩⟩
    · rw [rejectIf_decide, UInt64.not_lt]
      exact ordered
    · refine seq_eq_ok.2 ⟨rejectIf_bne.2 rfl, seq_eq_ok.2 ⟨rejectIf_eq_ok.2 room, ?_⟩⟩
      exact seq_eq_ok.2 ⟨rejectIf_eq_ok.2 (by simp [fresh]), applied⟩

end YHarness.Lib
