/-
# YHarness.Lib.DepthFirst -- depth-first walks that refuse bad nodes and cycles

A walk enters a node once, checks it, walks its successors and only then lists it.  It is
given by `expand`, which checks a node and returns its successors, and by the error of a node
met on the way down (`cycle`).  A walk from any roots succeeds exactly when every node that the
roots lead to is good and lies on no cycle, and then lists just these nodes, each once and
behind its successors (`visitAll_succeeds_iff`, `visitAll_lists`).
-/
import Mathlib

namespace YHarness.Lib

set_option autoImplicit false
set_option linter.unusedSectionVars false

universe u v

/-- What a walk needs to know of a graph. -/
structure Search (α : Type u) (ε : Type v) where
  expand : α → Except ε (List α)
  cycle : α → ε

/-- A walk on the way: the nodes entered and not left, those left, and their list. -/
structure Walk (α : Type u) where
  visiting : Finset α
  visited : Finset α
  ordered : List α

namespace Walk

variable {α : Type u} [DecidableEq α]

def empty : Walk α :=
  ⟨∅, ∅, []⟩

def enter (w : Walk α) (node : α) : Walk α :=
  { w with visiting := insert node w.visiting }

def leave (w : Walk α) (node : α) : Walk α :=
  ⟨w.visiting.erase node, insert node w.visited, w.ordered ++ [node]⟩

end Walk

namespace Search

variable {α : Type u} {ε : Type v} [DecidableEq α] (s : Search α ε)

/-- Walk one node; the first argument bounds the depth. -/
def visit : Nat → α → Walk α → Except ε (Walk α)
  | 0, node, _ => .error (s.cycle node)
  | depth + 1, node, w =>
    if node ∈ w.visited then .ok w
    else if node ∈ w.visiting then .error (s.cycle node)
    else do
      let successors ← s.expand node
      let w ← successors.foldlM (fun w successor => visit depth successor w) (w.enter node)
      .ok (w.leave node)

/-- Walk the roots one after the other. -/
def visitAll (depth : Nat) (roots : List α) : Except ε (Walk α) :=
  roots.foldlM (fun w root => s.visit depth root w) .empty

/-! ## What the graph is -/

def Edge (a b : α) : Prop :=
  ∃ successors, s.expand a = .ok successors ∧ b ∈ successors

/-- The nodes that the roots lead to. -/
def Reaches (roots : List α) (b : α) : Prop :=
  ∃ root ∈ roots, Relation.ReflTransGen s.Edge root b

/-- A node is good and on no cycle. -/
def Sound (b : α) : Prop :=
  (∃ successors, s.expand b = .ok successors) ∧ ¬ Relation.TransGen s.Edge b b

/-- The nodes left are listed once, and every one behind its successors. -/
structure Listed (w : Walk α) : Prop where
  members : ∀ b, b ∈ w.ordered ↔ b ∈ w.visited
  nodup : w.ordered.Nodup
  expanded : ∀ b ∈ w.visited, ∃ successors, s.expand b = .ok successors
  behind : ∀ earlier b later, w.ordered = earlier ++ b :: later → ∀ c, s.Edge b c → c ∈ earlier
  apart : ∀ b ∈ w.visiting, b ∉ w.visited

/-- What a walk to some nodes adds to another. -/
structure Extends (targets : List α) (w w' : Walk α) : Prop where
  visiting : w'.visiting = w.visiting
  kept : w.visited ⊆ w'.visited
  there : ∀ b ∈ targets, b ∈ w'.visited
  reached : ∀ b ∈ w'.visited, b ∈ w.visited ∨ s.Reaches targets b

variable {s}

theorem Listed.empty : s.Listed (Walk.empty : Walk α) where
  members := by simp [Walk.empty]
  nodup := List.nodup_nil
  expanded := by simp [Walk.empty]
  behind := by simp [Walk.empty]
  apart := by simp [Walk.empty]

variable {depth : Nat} {w : Walk α}

theorem Listed.enter (listed : s.Listed w) {node : α} (fresh : node ∉ w.visited) :
    s.Listed (w.enter node) where
  members := listed.members
  nodup := listed.nodup
  expanded := listed.expanded
  behind := listed.behind
  apart := Finset.forall_mem_insert .. |>.2 ⟨fresh, listed.apart⟩

/-- The nodes that a listed node leads to are listed. -/
theorem Listed.closed (listed : s.Listed w) {b c : α} (member : b ∈ w.visited)
    (leads : Relation.ReflTransGen s.Edge b c) : c ∈ w.visited := by
  induction leads with
  | refl => exact member
  | tail _ edge ih =>
    obtain ⟨earlier, later, split⟩ := List.append_of_mem ((listed.members _).2 ih)
    rw [← listed.members, split]
    exact List.mem_append_left _ (listed.behind earlier _ later split _ edge)

/-- A listed node is on no cycle: its place falls along every edge. -/
theorem Listed.acyclic (listed : s.Listed w) {b : α} (member : b ∈ w.visited) :
    ¬ Relation.TransGen s.Edge b b := by
  have falls : ∀ {a c : α}, a ∈ w.visited → Relation.TransGen s.Edge a c →
      w.ordered.idxOf c < w.ordered.idxOf a := by
    have step : ∀ {a c : α}, a ∈ w.visited → s.Edge a c →
        w.ordered.idxOf c < w.ordered.idxOf a := by
      intro a c there edge
      obtain ⟨earlier, later, split⟩ := List.append_of_mem ((listed.members a).2 there)
      have before := listed.behind earlier a later split c edge
      have absent : a ∉ earlier := by
        have nodup := listed.nodup
        rw [split, List.nodup_append] at nodup
        exact fun inside => nodup.2.2 a inside a List.mem_cons_self rfl
      rw [split, List.idxOf_append_of_mem before, List.idxOf_append_of_notMem absent]
      have := List.idxOf_lt_length_of_mem before
      omega
    intro a c there leads
    induction leads with
    | single edge => exact step there edge
    | tail path edge ih =>
      have middle := listed.closed there path.to_reflTransGen
      exact (step middle edge).trans ih
  intro cycle
  exact (falls member cycle).false

/-! ## What a walk does -/

theorem Extends.refl {w : Walk α} : s.Extends [] w w where
  visiting := rfl
  kept := Finset.Subset.refl _
  there := nofun
  reached _ member := .inl member

theorem Extends.cons {target : α} {targets : List α} {w w' w'' : Walk α}
    (first : s.Extends [target] w w') (rest : s.Extends targets w' w'') :
    s.Extends (target :: targets) w w'' where
  visiting := rest.visiting.trans first.visiting
  kept := first.kept.trans rest.kept
  there := List.forall_mem_cons.2 ⟨rest.kept (first.there _ List.mem_cons_self), rest.there⟩
  reached b member := by
    rcases rest.reached b member with before | ⟨root, among, leads⟩
    · rcases first.reached b before with before | ⟨root, among, leads⟩
      · exact .inl before
      · exact .inr ⟨root, List.mem_cons.2 (.inl (List.mem_singleton.1 among)), leads⟩
    · exact .inr ⟨root, List.mem_cons_of_mem _ among, leads⟩

/-- Nodes walked in a row, where each walk of one extends. -/
theorem foldlM_extends
    (one : ∀ {node : α} {w w' : Walk α}, s.visit depth node w = .ok w' → s.Listed w →
      s.Listed w' ∧ s.Extends [node] w w') {nodes : List α} {w w' : Walk α}
    (walked : nodes.foldlM (fun w node => s.visit depth node w) w = .ok w') (listed : s.Listed w) :
    s.Listed w' ∧ s.Extends nodes w w' := by
  induction nodes generalizing w with
  | nil =>
    cases walked
    exact ⟨listed, .refl⟩
  | cons node nodes ih =>
    rw [List.foldlM_cons] at walked
    cases first : s.visit depth node w with
    | error error =>
      rw [first] at walked
      cases walked
    | ok middle =>
      rw [first] at walked
      obtain ⟨listed', extends'⟩ := one first listed
      obtain ⟨last, rest⟩ := ih walked listed'
      exact ⟨last, extends'.cons rest⟩

/-- **One node.**  A walk that succeeds lists the node and what it leads to, and nothing else. -/
theorem visit_extends {node : α} {w w' : Walk α} (walked : s.visit depth node w = .ok w')
    (listed : s.Listed w) :
    s.Listed w' ∧ s.Extends [node] w w' := by
  induction depth generalizing node w w' with
  | zero => cases walked
  | succ depth ih =>
    unfold visit at walked
    split_ifs at walked with seen open'
    · cases walked
      exact ⟨listed, rfl, Finset.Subset.refl _, by simpa using seen, fun _ member => .inl member⟩
    · cases expands : s.expand node with
      | error error =>
        rw [expands] at walked
        cases walked
      | ok successors =>
        rw [expands] at walked
        cases inner : successors.foldlM (fun w successor => s.visit depth successor w)
            (w.enter node) with
        | error error =>
          simp only [bind, Except.bind, inner] at walked
          cases walked
        | ok middle =>
          simp only [bind, Except.bind, inner] at walked
          cases walked
          obtain ⟨listed', grows⟩ := foldlM_extends ih inner (listed.enter seen)
          have entered : node ∈ middle.visiting := by
            rw [grows.visiting]
            exact Finset.mem_insert_self ..
          have fresh : node ∉ middle.visited := listed'.apart node entered
          have edges : ∀ {c : α}, s.Edge node c ↔ c ∈ successors := by
            intro c
            constructor
            · rintro ⟨_, expands', among⟩
              rw [expands] at expands'
              cases expands'
              exact among
            · exact fun among => ⟨successors, expands, among⟩
          refine ⟨⟨fun b => ?_, ?_, ?_, ?_, ?_⟩, ?_, ?_, ?_, ?_⟩
          · simp only [Walk.leave, List.mem_append, List.mem_singleton, Finset.mem_insert,
              listed'.members]
            exact or_comm
          · refine List.nodup_append.2 ⟨listed'.nodup, List.nodup_singleton _, ?_⟩
            intro b before c here same
            rw [List.mem_singleton] at here
            subst here same
            exact fresh ((listed'.members _).1 before)
          · exact Finset.forall_mem_insert .. |>.2 ⟨⟨successors, expands⟩, listed'.expanded⟩
          · intro earlier b later split c edge
            rcases List.eq_nil_or_concat later with rfl | ⟨later, last, rfl⟩
            · obtain ⟨rfl, same⟩ := List.append_inj' split rfl
              cases same
              rw [listed'.members]
              exact grows.there c (edges.1 edge)
            · rw [Walk.leave, List.concat_eq_append, ← List.cons_append,
                ← List.append_assoc] at split
              exact listed'.behind earlier b later (List.append_inj_left' split rfl) c edge
          · intro b member
            obtain ⟨other, member⟩ := Finset.mem_erase.1 member
            rw [Walk.leave, Finset.mem_insert, not_or]
            exact ⟨other, listed'.apart b member⟩
          · show middle.visiting.erase node = w.visiting
            rw [grows.visiting]
            exact Finset.erase_insert open'
          · exact grows.kept.trans (Finset.subset_insert ..)
          · simp [Walk.leave]
          · intro b member
            have self : s.Reaches [node] node := ⟨node, List.mem_singleton_self _, .refl⟩
            rcases Finset.mem_insert.1 member with rfl | before
            · exact .inr self
            · rcases grows.reached b before with old | ⟨root, among, leads⟩
              · exact .inl old
              · exact .inr ⟨node, List.mem_singleton_self _, .head (edges.2 among) leads⟩

/-- **One good node.**  A walk succeeds where the nodes on the way down lead to the node, what
it leads to is sound, and the depth is enough for the nodes that remain. -/
theorem visit_succeeds {nodes : Finset α} {depth : Nat} {node : α} {w : Walk α}
    (known : ∀ b successors, s.expand b = .ok successors → b ∈ nodes)
    (deep : (nodes \ w.visiting).card < depth) (listed : s.Listed w)
    (path : ∀ b ∈ w.visiting, Relation.TransGen s.Edge b node)
    (sound : ∀ b, Relation.ReflTransGen s.Edge node b → s.Sound b) :
    ∃ w', s.visit depth node w = .ok w' := by
  induction depth generalizing node w with
  | zero => omega
  | succ depth ih =>
    unfold visit
    by_cases seen : node ∈ w.visited
    · exact ⟨w, if_pos seen⟩
    have here := sound node .refl
    have open' : node ∉ w.visiting := fun member => here.2 (path node member)
    obtain ⟨successors, expands⟩ := here.1
    rw [if_neg seen, if_neg open', expands]
    have remaining : (nodes \ (w.enter node).visiting).card < depth := by
      have fewer : nodes \ insert node w.visiting ⊂ nodes \ w.visiting := by
        rw [Finset.ssubset_iff_of_subset (Finset.sdiff_subset_sdiff (Finset.Subset.refl _)
          (Finset.subset_insert ..))]
        exact ⟨node, Finset.mem_sdiff.2 ⟨known node _ expands, open'⟩, by simp⟩
      have := Finset.card_lt_card fewer
      show (nodes \ insert node w.visiting).card < depth
      omega
    have row : ∀ (rest : List α) (v : Walk α), (∀ c ∈ rest, s.Edge node c) → s.Listed v →
        v.visiting = (w.enter node).visiting →
        ∃ w', rest.foldlM (fun w successor => s.visit depth successor w) v = .ok w' := by
      intro rest
      induction rest with
      | nil => exact fun v _ _ _ => ⟨v, rfl⟩
      | cons c rest more =>
        intro v edges listed' same
        have edge := edges c List.mem_cons_self
        obtain ⟨v', first⟩ := @ih c v (by rw [same]; exact remaining) listed'
          (by
            rw [same]
            intro b member
            rcases Finset.mem_insert.1 member with rfl | member
            · exact .single edge
            · exact (path b member).tail edge)
          fun b leads => sound b (.head edge leads)
        obtain ⟨listed'', extends'⟩ := visit_extends first listed'
        obtain ⟨w', rest'⟩ := more v' (fun d member => edges d (List.mem_cons_of_mem _ member))
          listed'' (extends'.visiting.trans same)
        exact ⟨w', by rw [List.foldlM_cons, first]; exact rest'⟩
    obtain ⟨w', inner⟩ := row successors (w.enter node)
      (fun c member => ⟨successors, expands, member⟩) (listed.enter seen) rfl
    exact ⟨w'.leave node, by simp only [bind, Except.bind, inner]⟩

/-- **Walks of several roots** succeed exactly when all they lead to is sound. -/
theorem visitAll_succeeds_iff {nodes : Finset α}
    (known : ∀ b successors, s.expand b = .ok successors → b ∈ nodes) (deep : nodes.card < depth)
    (roots : List α) :
    (∃ w, s.visitAll depth roots = .ok w) ↔ ∀ b, s.Reaches roots b → s.Sound b := by
  constructor
  · rintro ⟨w, walked⟩ b ⟨root, among, leads⟩
    obtain ⟨listed, grows⟩ := foldlM_extends visit_extends walked .empty
    have member := listed.closed (grows.there root among) leads
    exact ⟨listed.expanded b member, listed.acyclic member⟩
  · intro sound
    have row : ∀ (rest : List α) (v : Walk α), (∀ root ∈ rest, root ∈ roots) → s.Listed v →
        v.visiting = ∅ → ∃ w, rest.foldlM (fun w root => s.visit depth root w) v = .ok w := by
      intro rest
      induction rest with
      | nil => exact fun v _ _ _ => ⟨v, rfl⟩
      | cons root rest more =>
        intro v among listed idle
        obtain ⟨v', first⟩ := @visit_succeeds _ _ _ s nodes depth root v known
          (by rw [idle, Finset.sdiff_empty]; exact deep) listed (by rw [idle]; simp)
          fun b leads => sound b ⟨root, among root List.mem_cons_self, leads⟩
        obtain ⟨listed', extends'⟩ := visit_extends first listed
        obtain ⟨w, rest'⟩ := more v' (fun r member => among r (List.mem_cons_of_mem _ member))
          listed' (extends'.visiting.trans idle)
        exact ⟨w, by rw [List.foldlM_cons, first]; exact rest'⟩
    exact row roots .empty (fun _ member => member) .empty rfl

/-- What a walk of several roots lists. -/
theorem visitAll_lists {roots : List α} (walked : s.visitAll depth roots = .ok w) :
    s.Listed w ∧ ∀ b, b ∈ w.ordered ↔ s.Reaches roots b := by
  obtain ⟨listed, grows⟩ := foldlM_extends visit_extends walked .empty
  refine ⟨listed, fun b => ?_⟩
  rw [listed.members]
  constructor
  · intro member
    exact (grows.reached b member).resolve_left (Finset.notMem_empty b)
  · rintro ⟨root, among, leads⟩
    exact listed.closed (grows.there root among) leads

end Search

end YHarness.Lib
