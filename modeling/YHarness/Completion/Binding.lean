/-
# YHarness.Completion.Binding -- what a completion receipt binds

A receipt carries the digests of the Items up to the candidate and of the verifier suffix.
Digests are taken of the text of the value read back, and that value gives every Item back,
its payloads as they are read (`items_of_read`).  So a receipt that is valid against two
Turns was made of the same Items in both, as far as numbers are read back (`receipt_binds`),
and with the bytes of `Completion.Digest` that is `digests_bind_content`.  Two fractions that
are read as one are hashed as one (`digests_conflate_fractions`).
-/
import YHarness.Completion.Digest
import YHarness.Kernel.Fields

namespace YHarness

open YHarness.Lib YHarness.Kernel

set_option autoImplicit false

/-! ## Reading keeps every field -/

theorem asMaps_piecewise : Piecewise asMaps where
  null := rfl
  bool _ := rfl
  nat _ := rfl
  str _ := rfl
  arr values := by rw [asMaps, asMapsValues_eq]
  obj fields := ⟨_, by rw [asMaps], lastOf_asMaps fields⟩

theorem readBack_piecewise [NumberReader] : Piecewise readBack where
  null := rfl
  bool _ := rfl
  nat _ := rfl
  str _ := rfl
  arr values := by
    rw [readBack, readNumbers, mapNumbers, asMaps, mapNumbersValues_eq, asMapsValues_eq,
      List.map_map]
    rfl
  obj fields := ⟨_, by rw [readBack, readNumbers, mapNumbers, asMaps], fun key => by
    rw [lastOf_asMaps, mapNumbersFields_eq, lastOf_map, Option.map_map]
    rfl⟩

/-- **Items.**  Two lists of Items are read back as one value only when the Items are the same,
their payloads as they are read. -/
theorem items_of_read [NumberReader] {as bs : List Item}
    (same : readBack (itemsJson as) = readBack (itemsJson bs)) :
    as.map (Item.rewrite readBack) = bs.map (Item.rewrite readBack) :=
  items_eq_of_json readBack_piecewise same

/-- Items whose numbers are read as they were written are the same up to the order of keys in
their payloads. -/
theorem items_of_exact [NumberReader] {as bs : List Item}
    (same : readBack (itemsJson as) = readBack (itemsJson bs))
    (left : ReadExactly (itemsJson as)) (right : ReadExactly (itemsJson bs)) :
    as.map (Item.rewrite asMaps) = bs.map (Item.rewrite asMaps) := by
  rw [readBack, left, readBack, right] at same
  exact items_eq_of_json asMaps_piecewise same

/-! ## Receipts -/

/-- The Items up to the candidate, and those after it. -/
def evidenceParts (turn : Turn) (candidateItemId : ItemId) : Option (List Item × List Item) :=
  (splitAtItem candidateItemId turn.items).map fun (before, candidate, suffix) =>
    (before ++ [candidate], suffix)

/-- The two lists with every payload rewritten. -/
def rewriteParts (canon : Json → Json) : List Item × List Item → List Item × List Item :=
  Prod.map (List.map (Item.rewrite canon)) (List.map (Item.rewrite canon))

/-- The numbers of both lists are read as they were written. -/
def PartsExact [NumberReader] (parts : List Item × List Item) : Prop :=
  ReadExactly (itemsJson parts.1) ∧ ReadExactly (itemsJson parts.2)

instance [NumberReader] (parts : List Item × List Item) : Decidable (PartsExact parts) :=
  inferInstanceAs (Decidable (_ ∧ _))

/-- The inputs of the digests that bind the two lists. -/
def evidenceInputs [NumberReader] (turn : Turn) (candidateItemId : ItemId) : List HashInput :=
  match evidenceParts turn candidateItemId with
  | some (upTo, suffix) =>
    [.completion DigestDomain.turnEvidence.text (readBack (itemsJson upTo)),
      .completion DigestDomain.verifierResults.text (readBack (itemsJson suffix))]
  | none => []

/-- SHA-256 tells these inputs apart. -/
def TellsApart [Sha256] (inputs : List HashInput) : Prop :=
  ∀ x ∈ inputs, ∀ y ∈ inputs, Sha256.digest x = Sha256.digest y → x = y

instance [Sha256] (inputs : List HashInput) : Decidable (TellsApart inputs) :=
  inferInstanceAs (Decidable (∀ x ∈ inputs, ∀ y ∈ inputs,
    Sha256.digest x = Sha256.digest y → x = y))

section Receipts

variable [Sha256] {turn : Turn} {tenant : Option String} {receipt : CompletionReceipt}
  {placement : SourcePlacement}

/-- The evidence of a Turn carries the digests of the two lists of Items. -/
theorem evidence_digests {candidateItemId : ItemId} {evidence : DerivedTurnEvidence}
    (derived : deriveTurnEvidence turn candidateItemId = .ok evidence) :
    ∃ upTo suffix, evidenceParts turn candidateItemId = some (upTo, suffix) ∧
      evidence.turnEvidenceSha256 =
        Sha256.digest (.completion DigestDomain.turnEvidence.text (readBack (itemsJson upTo))) ∧
      evidence.verifierResultsSha256 =
        Sha256.digest
          (.completion DigestDomain.verifierResults.text (readBack (itemsJson suffix))) := by
  obtain ⟨⟨before, candidate, suffix⟩, found, derived⟩ := bind_eq_ok.1 derived
  rw [orError_eq_ok] at found
  refine ⟨before ++ [candidate], suffix, by rw [evidenceParts, found]; rfl, ?_⟩
  replace derived := rest_ok derived
  obtain ⟨_, _, derived⟩ := bind_eq_ok.1 derived
  iterate 3 replace derived := rest_ok derived
  obtain ⟨_, _, derived⟩ := bind_eq_ok.1 derived
  obtain ⟨_, _, derived⟩ := bind_eq_ok.1 derived
  obtain ⟨_, turnEvidence, derived⟩ := bind_eq_ok.1 derived
  obtain ⟨_, results, derived⟩ := bind_eq_ok.1 derived
  obtain ⟨_, _, derived⟩ := bind_eq_ok.1 derived
  cases derived
  exact ⟨((@canonicalJsonSha256_eq_ok _ .turnEvidence _ _ _).1 turnEvidence).2,
    ((@canonicalJsonSha256_eq_ok _ .verifierResults _ _ _).1 results).2⟩

/-- **Receipt.**  A valid receipt carries the digests of the two lists of Items. -/
theorem receipt_digests
    (valid : validateReceiptAgainstItems turn tenant receipt placement = .ok ()) :
    ∃ upTo suffix, evidenceParts turn receipt.candidateItemId = some (upTo, suffix) ∧
      receipt.turnEvidenceSha256 =
        Sha256.digest (.completion DigestDomain.turnEvidence.text (readBack (itemsJson upTo))) ∧
      receipt.verifierResultsSha256 =
        Sha256.digest
          (.completion DigestDomain.verifierResults.text (readBack (itemsJson suffix))) := by
  unfold validateReceiptAgainstItems at valid
  simp only [seq_eq_ok] at valid
  obtain ⟨-, -, -, -, -, -, -, valid⟩ := valid
  obtain ⟨evidence, derived, valid⟩ := bind_eq_ok.1 valid
  obtain ⟨matched, -⟩ := seq_eq_ok.1 valid
  simp only [rejectIf_eq_ok, Bool.or_eq_false_iff, bne_eq_false_iff_eq] at matched
  obtain ⟨⟨⟨-, turnEvidence⟩, results⟩, -⟩ := matched
  obtain ⟨upTo, suffix, parts, first, second⟩ := evidence_digests derived
  exact ⟨upTo, suffix, parts, turnEvidence ▸ first, results ▸ second⟩

end Receipts

/-- **Receipts.**  Two Turns that one receipt is valid against have the same Items up to the
candidate and the same verifier suffix, their payloads as they are read. -/
theorem receipt_binds [Sha256] {left right : Turn} {leftTenant rightTenant : Option String}
    {receipt : CompletionReceipt} {leftPlacement rightPlacement : SourcePlacement}
    (leftValid : validateReceiptAgainstItems left leftTenant receipt leftPlacement = .ok ())
    (rightValid : validateReceiptAgainstItems right rightTenant receipt rightPlacement = .ok ())
    (apart : TellsApart (evidenceInputs left receipt.candidateItemId ++
      evidenceInputs right receipt.candidateItemId)) :
    ∃ leftParts rightParts, evidenceParts left receipt.candidateItemId = some leftParts ∧
      evidenceParts right receipt.candidateItemId = some rightParts ∧
      rewriteParts readBack leftParts = rewriteParts readBack rightParts ∧
      (PartsExact leftParts → PartsExact rightParts →
        rewriteParts asMaps leftParts = rewriteParts asMaps rightParts) := by
  obtain ⟨upTo, suffix, leftParts, leftEvidence, leftResults⟩ := receipt_digests leftValid
  obtain ⟨upTo', suffix', rightParts, rightEvidence, rightResults⟩ := receipt_digests rightValid
  refine ⟨_, _, leftParts, rightParts, ?_⟩
  have evidence := apart _ (by simp [evidenceInputs, leftParts]) _
    (by simp [evidenceInputs, rightParts]) (leftEvidence.symm.trans rightEvidence)
  have results := apart _ (by simp [evidenceInputs, leftParts]) _
    (by simp [evidenceInputs, rightParts]) (leftResults.symm.trans rightResults)
  rw [HashInput.completion.injEq] at evidence results
  exact ⟨Prod.ext (items_of_read evidence.2) (items_of_read results.2),
    fun left right => Prod.ext (items_of_exact evidence.2 left.1 right.1)
      (items_of_exact results.2 left.2 right.2)⟩

/-- **Main theorem.**  The bytes of two completion digests are equal exactly when their domains
are and their values, every number as it is read back, differ in the order of keys only: always
when the values themselves do, and only then when their numbers are read as they were written.
One receipt is valid against two Turns only when these have the same Items up to the candidate
and the same verifier suffix, in the same sense. -/
theorem digests_bind_content :
    (∀ [NumberReader] (d e : DigestDomain) (a b : Json) (m n : Nat) (x y : List UInt8),
      canonicalJsonBytes d a m = .ok x → canonicalJsonBytes e b n = .ok y →
        (x = y ↔ d = e ∧ SameJson (readNumbers a) (readNumbers b)) ∧
        (d = e → SameJson a b → x = y) ∧
        (ReadExactly a → ReadExactly b → (x = y ↔ d = e ∧ SameJson a b))) ∧
    (∀ [Sha256] (left right : Turn) (leftTenant rightTenant : Option String)
      (receipt : CompletionReceipt) (leftPlacement rightPlacement : SourcePlacement),
      validateReceiptAgainstItems left leftTenant receipt leftPlacement = .ok () →
      validateReceiptAgainstItems right rightTenant receipt rightPlacement = .ok () →
      TellsApart (evidenceInputs left receipt.candidateItemId ++
        evidenceInputs right receipt.candidateItemId) →
      ∃ leftParts rightParts, evidenceParts left receipt.candidateItemId = some leftParts ∧
        evidenceParts right receipt.candidateItemId = some rightParts ∧
        rewriteParts readBack leftParts = rewriteParts readBack rightParts ∧
        (PartsExact leftParts → PartsExact rightParts →
          rewriteParts asMaps leftParts = rewriteParts asMaps rightParts)) := by
  refine ⟨fun d e a b m n x y left right => ?_, fun left right _ _ receipt _ _ => ?_⟩
  · have bytes := canonical_bytes_iff left right
    refine ⟨bytes, fun domains same => bytes.2 ⟨domains, same.mapNumbers _⟩,
      fun leftExact rightExact => ?_⟩
    rwa [leftExact, rightExact] at bytes
  · exact receipt_binds

/-! ## A receipt that is valid against two Turns -/

def writtenPayload : Json := .obj [("path", .str "a.txt"), ("limit", .num "1.5")]

/-- The same object with its keys in the other order. -/
def reorderedPayload : Json := .obj [("limit", .num "1.5"), ("path", .str "a.txt")]

def receiptSha256 : String :=
  "b1f51a511f1da0cd348b8f8598db32e61cb963e5fc69e2b41485bf99590ed75a"

def evidenceSha256 : String :=
  "c8b1305719cbe5a75e01ab18599c2eacc954612c8f09db3698179bd8db63d6b2"

/-- SHA-256 on the inputs of the sample receipt. -/
@[reducible] def receiptHash : Sha256 where
  toNumberReader := fractionReader
  digest
    | .completion "turn-evidence" _ => evidenceSha256
    | _ => receiptSha256
  digest_lower input := by
    split <;> decide +kernel

def receiptTurn (payload : Json) : Turn :=
  { id := "turn-1", threadId := "thread-1", status := .running, completionReceipt := none
    items :=
      [⟨"item-1", 1, .toolCall none none "call-1" "read" payload none⟩,
        ⟨"item-2", 2, .policyDecision "call-1" none .allow⟩,
        ⟨"item-3", 3, .toolResult "call-1" (.str "text") false []⟩,
        ⟨"item-4", 4, .assistantMessage (some "model-1") (some .builtIn) (some receiptSha256)
          "done"⟩] }

def sampleReceipt : CompletionReceipt :=
  { formatVersion := 1, authority := .localProcess, sourceThreadId := "thread-1"
    turnId := "turn-1", candidateItemId := "item-4", candidateSha256 := receiptSha256
    turnEvidenceSha256 := evidenceSha256, verifierResultsSha256 := receiptSha256
    verifierCount := 0
    generation :=
      { formatVersion := 1, modelRequestSha256 := receiptSha256
        modelRouteSha256 := receiptSha256, toolViewSha256 := receiptSha256
        verifierManifestSha256 := receiptSha256, runtimeGovernanceSha256 := receiptSha256
        executionBindingSha256 := none, assurance := .runtimeMeasured
        generationSha256 := receiptSha256 }
    contract := CompletionContract.v1NoExternalRequirements }

/-- Two spellings of one payload give the same bytes, and one receipt is valid against two
Turns that spell it differently. -/
theorem digests_bind_content_sample :
    (∃ x y, @canonicalJsonBytes fractionReader .candidate writtenPayload 100 = .ok x ∧
      @canonicalJsonBytes fractionReader .candidate reorderedPayload 100 = .ok y ∧ x = y) ∧
    ∃ leftParts rightParts,
      evidenceParts (receiptTurn writtenPayload) "item-4" = some leftParts ∧
      evidenceParts (receiptTurn reorderedPayload) "item-4" = some rightParts ∧
      rewriteParts asMaps leftParts = rewriteParts asMaps rightParts := by
  constructor
  · let _ := fractionReader
    have same : asMaps writtenPayload = asMaps reorderedPayload := by decide +kernel
    have left : canonicalJsonBytes .candidate writtenPayload 100 = .ok _ :=
      canonicalJsonBytes_eq_ok.2 ⟨by decide +kernel, rfl⟩
    have right : canonicalJsonBytes .candidate reorderedPayload 100 = .ok _ :=
      canonicalJsonBytes_eq_ok.2 ⟨by decide +kernel, rfl⟩
    exact ⟨_, _, left, right, ((digests_bind_content.1 _ _ _ _ _ _ _ _ left right).2.2
      (by decide +kernel) (by decide +kernel)).2 ⟨rfl, asMaps_eq_iff.1 same⟩⟩
  · let _ := receiptHash
    obtain ⟨leftParts, rightParts, left, right, -, exactly⟩ := digests_bind_content.2
      (receiptTurn writtenPayload) (receiptTurn reorderedPayload) none none sampleReceipt .direct
      .direct (by decide +kernel) (by decide +kernel) (by decide +kernel)
    obtain rfl := Option.some.inj left
    obtain rfl := Option.some.inj right
    exact ⟨_, _, left, right, exactly (by decide +kernel) (by decide +kernel)⟩

/-- Two neighbouring fractions that the reader makes one of give the same bytes, and one
receipt is valid against the two Turns that hold them. -/
theorem digests_conflate_fractions :
    ∃ low high : Json, ¬ SameJson low high ∧
      (∃ bytes, @canonicalJsonBytes fractionReader .candidate low 100 = .ok bytes ∧
        @canonicalJsonBytes fractionReader .candidate high 100 = .ok bytes) ∧
      (@validateReceiptAgainstItems receiptHash (receiptTurn low) none sampleReceipt .direct =
          .ok () ∧
        @validateReceiptAgainstItems receiptHash (receiptTurn high) none sampleReceipt .direct =
          .ok ()) ∧
      (evidenceParts (receiptTurn low) "item-4").map (rewriteParts asMaps) ≠
        (evidenceParts (receiptTurn high) "item-4").map (rewriteParts asMaps) := by
  refine ⟨.num "0.9452706955539223", .num "0.9452706955539224", ?_, ?_, ?_, ?_⟩
  · rw [← asMaps_eq_iff]
    decide +kernel
  · let _ := fractionReader
    exact ⟨frame .candidate (readBack (.num "0.9452706955539223")).encode,
      canonicalJsonBytes_eq_ok.2 ⟨by decide +kernel, rfl⟩,
      canonicalJsonBytes_eq_ok.2 ⟨by decide +kernel, by decide +kernel⟩⟩
  · exact ⟨by decide +kernel, by decide +kernel⟩
  · decide +kernel

end YHarness
