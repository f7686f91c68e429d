/-
# YHarness.DomainPack.Sealing -- sealing and verifying are exact

`DomainPackSnapshot::seal` and `DomainPackInventory::new` of `model.rs` sort the pins, so
the order they were listed in is forgotten (`sortPins_perm`).  The check of a list of pins
leaves it in that order and with one pin an identity (`PinsValid`), so a valid snapshot is
the one that its own parts seal to, and the map that `verify` looks into answers whether a
pin is in the inventory (`verifyPin_eq_ok`).
-/
import Mathlib.Data.List.Chain
import YHarness.DomainPack.Guarantees
import YHarness.Lib.JsonText

namespace YHarness.DomainPack

open YHarness.Lib YHarness.Kernel YHarness.Workflow

set_option autoImplicit false

/-! ## The order of pins -/

namespace DomainPackComponentPin

section Order

attribute [local instance] lexOrd

/-- The fields of a pin, the most significant first. -/
abbrev fields (pin : DomainPackComponentPin) : Nat × String × String × String :=
  (pin.kind.index, pin.name, pin.version, pin.contentSha256)

theorem fields_injective : Function.Injective fields := by
  rintro ⟨kind, name, version, digest⟩ ⟨kind', name', version', digest'⟩ same
  simp only [fields, Prod.mk.injEq] at same
  obtain ⟨index, rfl, rfl, rfl⟩ := same
  have kinds : kind = kind' := by
    cases kind <;> cases kind' <;> first | rfl | cases index
  rw [kinds]

theorem not_isAfter {pin other : DomainPackComponentPin} :
    (!pin.isAfter other) = true ↔ (compare pin.fields other.fields).isLE = true := by
  show (!(compare pin.fields other.fields == .gt)) = true ↔ _
  cases compare pin.fields other.fields <;> decide

theorem not_isAfter_trans (a b c : DomainPackComponentPin) (first : (!a.isAfter b) = true)
    (next : (!b.isAfter c) = true) : (!a.isAfter c) = true := by
  rw [not_isAfter] at first next ⊢
  exact Std.TransCmp.isLE_trans first next

theorem not_isAfter_total (a b : DomainPackComponentPin) :
    ((!a.isAfter b) || (!b.isAfter a)) = true := by
  rw [Bool.or_eq_true, not_isAfter, not_isAfter, Std.OrientedOrd.eq_swap (a := b.fields)]
  cases compare a.fields b.fields <;> decide

theorem not_isAfter_antisymm (a b : DomainPackComponentPin) (first : (!a.isAfter b) = true)
    (back : (!b.isAfter a) = true) : a = b := by
  rw [not_isAfter] at first back
  exact fields_injective (Std.compare_eq_iff_eq.1 (Std.OrientedCmp.isLE_antisymm first back))

end Order

/-- What `identities` holds of a pin. -/
abbrev identity (pin : DomainPackComponentPin) : DomainPackComponentKind × String :=
  (pin.kind, pin.name)

end DomainPackComponentPin

/-- `components.sort()`. -/
def sortPins (components : List DomainPackComponentPin) : List DomainPackComponentPin :=
  components.mergeSort fun pin other => !pin.isAfter other

/-- Every order of the same pins is sorted to one list. -/
theorem sortPins_perm {components others : List DomainPackComponentPin}
    (same : components.Perm others) : sortPins components = sortPins others := by
  have sorted (pins : List DomainPackComponentPin) := List.pairwise_mergeSort
    DomainPackComponentPin.not_isAfter_trans DomainPackComponentPin.not_isAfter_total pins
  refine List.Perm.eq_of_pairwise (fun a b _ _ => DomainPackComponentPin.not_isAfter_antisymm a b)
    (sorted components) (sorted others) ?_
  exact (List.mergeSort_perm _ _).trans (same.trans (List.mergeSort_perm _ _).symm)

/-! ## Checked pins -/

/-- A list of pins that is in order and has one pin an identity. -/
structure PinsValid (components : List DomainPackComponentPin) : Prop where
  sorted : components.Pairwise fun pin other => (!pin.isAfter other) = true
  unique : components.Pairwise fun pin other => pin.identity ≠ other.identity

theorem validatePins_eq_ok {seen components : List DomainPackComponentPin}
    (valid : validatePins seen components = .ok ()) :
    (seen.head?.toList ++ components).IsChain (fun pin other => (!pin.isAfter other) = true) ∧
      components.Pairwise (fun pin other => pin.identity ≠ other.identity) ∧
      ∀ pin ∈ components, ∀ other ∈ seen, other.identity ≠ pin.identity := by
  induction components generalizing seen with
  | nil =>
    refine ⟨?_, .nil, nofun⟩
    cases seen <;> simp
  | cons component rest ih =>
    obtain ⟨ordered, valid⟩ := seq_eq_ok.1 valid
    iterate 3 replace valid := rest_ok valid
    obtain ⟨fresh, valid⟩ := seq_eq_ok.1 valid
    obtain ⟨chain, unique, apart⟩ := ih valid
    rw [rejectIf_eq_ok, List.any_eq_false] at fresh
    have new : ∀ other ∈ seen, other.identity ≠ component.identity := fun other member same => by
      obtain ⟨kind, name⟩ := Prod.mk.inj same
      exact fresh other member (by rw [kind, name, beq_self_eq_true, beq_self_eq_true]; rfl)
    refine ⟨?_, List.pairwise_cons.2 ⟨fun pin member => ?_, unique⟩, ?_⟩
    · cases seen with
      | nil => exact chain
      | cons last earlier =>
        rw [rejectIf_eq_ok] at ordered
        have after : last.isAfter component = false := ordered
        exact List.isChain_cons_cons.2 ⟨by rw [after]; rfl, chain⟩
    · exact apart pin member component (List.mem_cons_self ..)
    · intro pin member other earlier
      rcases List.mem_cons.1 member with rfl | later
      · exact new other earlier
      · exact apart pin later other (List.mem_cons_of_mem _ earlier)

variable {components : List DomainPackComponentPin}

theorem validateComponents_eq_ok (valid : validateComponents components = .ok ()) :
    PinsValid components := by
  replace valid := rest_ok valid
  obtain ⟨pins, _⟩ := seq_eq_ok.1 valid
  obtain ⟨chain, unique, _⟩ := validatePins_eq_ok pins
  have trans : IsTrans DomainPackComponentPin fun pin other => (!pin.isAfter other) = true :=
    ⟨DomainPackComponentPin.not_isAfter_trans⟩
  exact ⟨List.isChain_iff_pairwise.1 chain, unique⟩

theorem PinsValid.sortPins (valid : PinsValid components) : sortPins components = components :=
  List.mergeSort_of_pairwise valid.sorted

theorem PinsValid.eq_of_identity (valid : PinsValid components) {pin other : DomainPackComponentPin}
    (member : pin ∈ components) (also : other ∈ components) (same : pin.identity = other.identity) :
    pin = other := by
  by_contra different
  have symm : Std.Symm fun pin other : DomainPackComponentPin => pin.identity ≠ other.identity :=
    ⟨fun _ _ apart => apart.symm⟩
  exact valid.unique.forall member also different same

/-- **The map that `verify` looks into** answers whether a pin is in the inventory. -/
theorem verifyPin_eq_ok {installed : List DomainPackComponentPin} (valid : PinsValid installed)
    {required : DomainPackComponentPin} :
    verifyPin installed required = .ok () ↔ required ∈ installed := by
  unfold verifyPin
  split
  · rename_i absent
    refine ⟨nofun, fun member => ?_⟩
    have missed := List.find?_eq_none.1 absent required (List.mem_reverse.2 member)
    simp at missed
  · rename_i other found
    have held := List.mem_reverse.1 (List.mem_of_find?_eq_some found)
    have same := List.find?_some found
    rw [Bool.and_eq_true, beq_iff_eq, beq_iff_eq] at same
    rw [rejectIf_bne]
    constructor
    · rintro rfl
      exact held
    · exact fun member => valid.eq_of_identity held member (Prod.ext same.1 same.2)

/-! ## Digests -/

section Versions

variable {V : Type} [SemVer V]

theorem DomainPackComponentPin.toJson_injective : Function.Injective toJson := by
  rintro ⟨kind, name, version, digest⟩ ⟨kind', name', version', digest'⟩ same
  simp only [toJson, Json.obj.injEq, List.cons.injEq, Prod.mk.injEq, true_and, and_true,
    Json.str.injEq] at same
  obtain ⟨kinds, rfl, rfl, rfl⟩ := same
  have : kind = kind' := by
    cases kind <;> cases kind' <;> first | rfl | simp [DomainPackComponentKind.toJson] at kinds
  rw [this]

namespace DomainPackSnapshot

theorem material_lexical (snapshot : DomainPackSnapshot V) :
    (Json.obj snapshot.material).Lexical := by
  have pins : ∀ components : List DomainPackComponentPin,
      ValuesLexical (components.map DomainPackComponentPin.toJson) := by
    intro components
    induction components with
    | nil => trivial
    | cons pin rest ih =>
      refine ⟨?_, ih⟩
      cases pin with
      | mk kind => cases kind <;> simp [DomainPackComponentPin.toJson, Json.Lexical,
          FieldsLexical, DomainPackComponentKind.toJson]
  simp only [material, Json.Lexical, FieldsLexical, jsonU32, DomainPackReleaseId.toJson, true_and,
    and_true]
  exact pins _

/-- The fields that the digest covers are determined by their encoding. -/
theorem eq_of_material (faithful : Function.Injective (SemVer.display (V := V)))
    {first second : DomainPackSnapshot V}
    (same : (Json.obj first.material).encode = (Json.obj second.material).encode) :
    first.formatVersion = second.formatVersion ∧ first.release = second.release ∧
      first.description = second.description ∧ first.components = second.components := by
  have fields := encode_injective first.material_lexical second.material_lexical same
  simp only [material, Json.obj.injEq, List.cons.injEq, Prod.mk.injEq, true_and, and_true,
    Json.str.injEq, Json.arr.injEq, jsonU32, Json.nat.injEq, DomainPackReleaseId.toJson] at fields
  obtain ⟨format, ⟨name, version⟩, description, components⟩ := fields
  refine ⟨UInt32.toNat.inj format, ?_, description,
    List.map_injective_iff.2 DomainPackComponentPin.toJson_injective components⟩
  cases first with
  | mk _ release =>
    cases release
    cases second with
    | mk _ release =>
      cases release
      exact congrArg₂ _ name (faithful version)

variable [Sha256]

variable {snapshot : DomainPackSnapshot V} {inventory : DomainPackInventory}

theorem computedSha256_eq_ok {digest : String} (computed : snapshot.computedSha256 = .ok digest) :
    digest = Sha256.digest (.json (.obj snapshot.material)) := by
  replace computed := rest_ok computed
  cases computed
  rfl

/-- What a valid snapshot is. -/
theorem validate_eq_ok (valid : snapshot.validate = .ok ()) :
    snapshot.formatVersion = domainPackFormatVersion ∧ PinsValid snapshot.components ∧
      snapshot.computedSha256 = .ok snapshot.contentSha256 := by
  obtain ⟨format, valid⟩ := seq_eq_ok.1 valid
  replace valid := rest_ok (rest_ok valid)
  obtain ⟨pins, valid⟩ := seq_eq_ok.1 valid
  replace valid := rest_ok valid
  obtain ⟨computed, computes, valid⟩ := bind_eq_ok.1 valid
  obtain ⟨same, _⟩ := seq_eq_ok.1 valid
  rw [rejectIf_bne] at format same
  exact ⟨format, validateComponents_eq_ok pins, same ▸ computes⟩

/-- `DomainPackSnapshot::seal`. -/
def «seal» (release : DomainPackReleaseId V) (description : String)
    (components : List DomainPackComponentPin) : Except DomainPackError (DomainPackSnapshot V) := do
  let snapshot : DomainPackSnapshot V :=
    ⟨domainPackFormatVersion, release, description, sortPins components, ""⟩
  let contentSha256 ← snapshot.computedSha256
  let snapshot := { snapshot with contentSha256 }
  snapshot.validate
  .ok snapshot

/-- A valid snapshot is sealed from its own parts. -/
theorem seal_of_valid (valid : snapshot.validate = .ok ()) :
    «seal» snapshot.release snapshot.description snapshot.components = .ok snapshot := by
  obtain ⟨format, pins, computed⟩ := validate_eq_ok valid
  unfold «seal»
  rw [pins.sortPins, ← format]
  refine bind_eq_ok.2 ⟨snapshot.contentSha256, ?_, seq_eq_ok.2 ⟨valid, rfl⟩⟩
  exact computed

theorem verify_eq_ok {verified : VerifiedDomainPack V}
    (succeeds : snapshot.verify inventory = .ok verified) :
    snapshot.checkAgainst inventory = .ok () ∧ verified.snapshot = snapshot ∧
      verified.inventorySha256 = inventory.contentSha256 := by
  unfold verify at succeeds
  split at succeeds
  · rename_i checked
    cases succeeds
    exact ⟨checked, rfl, rfl⟩
  · cases succeeds

theorem verify_of_checked (checked : snapshot.checkAgainst inventory = .ok ()) :
    ∃ verified, snapshot.verify inventory = .ok verified := by
  unfold verify
  split
  · exact ⟨_, rfl⟩
  · rename_i error failed
    rw [checked] at failed
    cases failed

end DomainPackSnapshot

section Results

variable [Sha256]

/-- `DomainPackInventory::new`. -/
def DomainPackInventory.new (components : List DomainPackComponentPin) :
    Except DomainPackError DomainPackInventory := do
  let components := sortPins components
  validateComponents components
  let contentSha256 ← inventorySha256 components
  .ok ⟨components, contentSha256⟩

theorem DomainPackInventory.pins_of_valid {inventory : DomainPackInventory}
    (valid : inventory.validate = .ok ()) : PinsValid inventory.components :=
  validateComponents_eq_ok (seq_eq_ok.1 valid).1

variable (V) in
/-- **Sealing and verifying are exact.**  The order of the pins does not matter; a snapshot
is valid only if its own parts seal to it; two valid snapshots with one digest are equal,
unless SHA-256 collides on their encodings; and a valid snapshot is verified against a valid
inventory exactly if each of its pins is in the inventory, whose digest is returned. -/
structure SealingExact : Prop where
  ordered : ∀ (release : DomainPackReleaseId V) (description : String)
    (components others : List DomainPackComponentPin), components.Perm others →
    DomainPackSnapshot.seal release description components =
        DomainPackSnapshot.seal release description others ∧
      DomainPackInventory.new components = DomainPackInventory.new others
  canonical : ∀ snapshot : DomainPackSnapshot V, snapshot.validate = .ok () →
    DomainPackSnapshot.seal snapshot.release snapshot.description snapshot.components =
      .ok snapshot
  digests : ∀ first second : DomainPackSnapshot V, first.validate = .ok () →
    second.validate = .ok () → first.contentSha256 = second.contentSha256 →
    (Sha256.digest (.json (.obj first.material)) = Sha256.digest (.json (.obj second.material)) →
      (Json.obj first.material).encode = (Json.obj second.material).encode) →
    first = second
  verified : ∀ (snapshot : DomainPackSnapshot V) (inventory : DomainPackInventory),
    snapshot.validate = .ok () → inventory.validate = .ok () →
    ((∃ verified, snapshot.verify inventory = .ok verified) ↔
        ∀ pin ∈ snapshot.components, pin ∈ inventory.components) ∧
      ∀ verified, snapshot.verify inventory = .ok verified →
        verified.snapshot = snapshot ∧ verified.inventorySha256 = inventory.contentSha256

/-- Different versions have different texts. -/
theorem sealing_exact (faithful : Function.Injective (SemVer.display (V := V))) :
    SealingExact V where
  ordered release description components others same := by
    unfold DomainPackSnapshot.seal DomainPackInventory.new
    rw [sortPins_perm same]
    exact ⟨rfl, rfl⟩
  canonical _ valid := DomainPackSnapshot.seal_of_valid valid
  digests first second valid valid' same apart := by
    obtain ⟨_, _, computed⟩ := DomainPackSnapshot.validate_eq_ok valid
    obtain ⟨_, _, computed'⟩ := DomainPackSnapshot.validate_eq_ok valid'
    have digests := DomainPackSnapshot.computedSha256_eq_ok computed
    have digests' := DomainPackSnapshot.computedSha256_eq_ok computed'
    obtain ⟨format, release, description, components⟩ := DomainPackSnapshot.eq_of_material faithful
      (apart (digests.symm.trans (same.trans digests')))
    obtain ⟨formatVersion, releaseId, text, pins, digest⟩ := first
    obtain rfl : formatVersion = _ := format
    obtain rfl : releaseId = _ := release
    obtain rfl : text = _ := description
    obtain rfl : pins = _ := components
    obtain rfl : digest = _ := same
    rfl
  verified snapshot inventory valid installed := by
    have pins := DomainPackInventory.pins_of_valid installed
    have exact : snapshot.checkAgainst inventory = .ok () ↔
        ∀ pin ∈ snapshot.components, pin ∈ inventory.components := by
      unfold DomainPackSnapshot.checkAgainst
      rw [seq_eq_ok, seq_eq_ok, checkAll_eq_ok]
      simp only [valid, installed, true_and, verifyPin_eq_ok pins]
    refine ⟨⟨?_, fun members => ?_⟩, fun verified succeeds =>
      (DomainPackSnapshot.verify_eq_ok succeeds).2⟩
    · rintro ⟨verified, succeeds⟩
      exact exact.1 (DomainPackSnapshot.verify_eq_ok succeeds).1
    · exact DomainPackSnapshot.verify_of_checked (exact.2 members)

end Results

end Versions

section Sample

attribute [local instance] constantSha256

theorem sealing_exact_sample : SealingExact VersionText ∧
    DomainPackSnapshot.seal sampleSnapshot.release sampleSnapshot.description
      sampleSnapshot.components = .ok sampleSnapshot :=
  have exact := sealing_exact VersionText.text_injective
  ⟨exact, exact.canonical sampleSnapshot (by decide +kernel)⟩

end Sample

end YHarness.DomainPack
