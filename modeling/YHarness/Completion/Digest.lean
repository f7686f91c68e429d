/-
# YHarness.Completion.Digest -- the bytes a completion digest is taken of

`canonical_json_sha256` encodes a value, reads the text back as a JSON value, sorts every
object, encodes again and hashes the result behind a prefix and a framed domain.  The
bytes it hashes are a function of the domain and of the value it read, up to the order of
object keys, and of nothing else:

* `frame_cancel`: the frame separates the domains and gives the canonical text back;
* `canonicalizeJson_readBack`: a value that was read is sorted already;
* `canonical_bytes_iff`: the bytes are equal exactly when the domains are and the values,
  every number as it is read, agree up to the order of keys;
* `canonicalJsonSha256_eq_ok`: the digest is taken of these bytes.
-/
import YHarness.Completion

namespace YHarness

open YHarness.Lib YHarness.Kernel

set_option autoImplicit false

/-! ## The digest input -/

/-- The domains of `canonical_json_sha256`. -/
inductive DigestDomain where
  | modelRequest | modelRoute | toolView | verifierBinding | verifierManifest
  | runtimeGovernance | executionBinding | candidate | turnEvidence | verifierResults
  | generation | receipt
deriving DecidableEq

def DigestDomain.text : DigestDomain → String
  | modelRequest => "model-request"
  | modelRoute => "model-route"
  | toolView => "tool-view"
  | verifierBinding => "verifier-binding"
  | verifierManifest => "verifier-manifest"
  | runtimeGovernance => "runtime-governance"
  | executionBinding => "execution-binding-item"
  | candidate => "candidate-item"
  | turnEvidence => "turn-evidence"
  | verifierResults => "verifier-results"
  | generation => "generation"
  | receipt => "receipt"

def hashPrefix : List UInt8 := utf8Bytes "Y-HARNESS\x00COMPLETION\x00SHA-256\x00V1\x00"

/-- `to_be_bytes` of a `width`-byte integer, saturated. -/
def bigEndian (width n : Nat) : List UInt8 :=
  (List.range width).reverse.map fun place =>
    UInt8.ofNat (min n (256 ^ width - 1) / 256 ^ place % 256)

/-- The domain as it is framed before the canonical text. -/
def DigestDomain.header (domain : DigestDomain) : List UInt8 :=
  bigEndian 4 (utf8Bytes domain.text).length ++ utf8Bytes domain.text

/-- The bytes handed to SHA-256. -/
def frame (domain : DigestDomain) (canonical : List UInt8) : List UInt8 :=
  hashPrefix ++ (domain.header ++ (bigEndian 8 canonical.length ++ canonical))

/-- The bytes `canonical_json_sha256` hashes. -/
def canonicalJsonBytes [NumberReader] (domain : DigestDomain) (value : Json) (maximum : Nat) :
    Except HarnessError (List UInt8) := do
  let canonical ← canonicalJson value maximum
  .ok (frame domain canonical.encode)

/-! ## The frame -/

def DigestDomain.all : List DigestDomain :=
  [modelRequest, modelRoute, toolView, verifierBinding, verifierManifest, runtimeGovernance,
    executionBinding, candidate, turnEvidence, verifierResults, generation, receipt]

theorem header_prefix_free (d e : DigestDomain) : d.header <+: e.header → d = e := by
  have listed : ∀ domain, domain ∈ DigestDomain.all := fun domain => by
    cases domain <;> decide
  have apart : ∀ d ∈ DigestDomain.all, ∀ e ∈ DigestDomain.all, d.header <+: e.header → d = e := by
    decide +kernel
  exact apart d (listed d) e (listed e)

theorem header_cancel {d e : DigestDomain} {r s : List UInt8}
    (same : d.header ++ r = e.header ++ s) : d = e ∧ r = s := by
  have either : d.header <+: e.header ∨ e.header <+: d.header := by
    rcases List.append_eq_append_iff.1 same with ⟨more, split, _⟩ | ⟨more, split, _⟩
    · exact .inl ⟨more, split.symm⟩
    · exact .inr ⟨more, split.symm⟩
  have domains : d = e :=
    either.elim (header_prefix_free d e) fun before => (header_prefix_free e d before).symm
  subst domains
  exact ⟨rfl, List.append_cancel_left same⟩

theorem bigEndian_length (width n : Nat) : (bigEndian width n).length = width := by
  simp [bigEndian]

/-- **Frame.**  The framed bytes determine the domain and the canonical text. -/
theorem frame_cancel {d e : DigestDomain} {x y : List UInt8} (same : frame d x = frame e y) :
    d = e ∧ x = y := by
  obtain ⟨domains, sized⟩ := header_cancel (List.append_cancel_left same)
  exact ⟨domains, (List.append_inj sized (by rw [bigEndian_length, bigEndian_length])).2⟩

/-! ## Sorting a map changes nothing -/

theorem canonicalizeFields_eq (fs : List (String × Json)) :
    canonicalizeFields fs = fs.map fun field => (field.1, canonicalizeJson field.2) := by
  induction fs with
  | nil => rfl
  | cons field fs ih =>
    obtain ⟨k, v⟩ := field
    rw [canonicalizeFields, ih, List.map_cons]

theorem canonicalizeValues_eq (vs : List Json) :
    canonicalizeValues vs = vs.map canonicalizeJson := by
  induction vs with
  | nil => rfl
  | cons v vs ih => rw [canonicalizeValues, ih, List.map_cons]

theorem canonicalizeJson_asMaps (v : Json) : canonicalizeJson (asMaps v) = asMaps v := by
  induction v using json_induction with
  | leaf v notArr notObj =>
    cases v <;> first
      | rfl
      | exact absurd rfl (notArr _)
      | exact absurd rfl (notObj _)
  | arr vs ih =>
    rw [asMaps, canonicalizeJson, canonicalizeValues_eq, asMapsValues_eq, List.map_map]
    congr 1
    exact List.map_congr_left ih
  | obj fs ih =>
    have kept : canonicalizeFields (collect (asMapsFields fs)) = collect (asMapsFields fs) := by
      rw [canonicalizeFields_eq]
      refine (List.map_congr_left fun field member => ?_).trans (List.map_id _)
      obtain ⟨key, value⟩ := field
      obtain ⟨v, last, rfl⟩ := mem_asMaps.1 member
      rw [ih key v (lastOf_mem last), id]
    rw [asMaps, canonicalizeJson, kept, collect_sorted]

/-- A value that was read is sorted already. -/
theorem canonicalizeJson_readBack [NumberReader] (v : Json) :
    canonicalizeJson (readBack v) = readBack v :=
  canonicalizeJson_asMaps _

/-! ## The digest -/

/-- The canonical value is the value read back, within its bounds before and after. -/
theorem canonicalJson_eq_ok [NumberReader] {value canonical : Json} {maximum : Nat} :
    canonicalJson value maximum = .ok canonical ↔
      value.encodedLen ≤ maximum ∧ nesting value ≤ maxReaderNesting ∧
      ((readBack value).depth ≤ maxJsonDepth ∧ (readBack value).nodes ≤ maxJsonNodes) ∧
      (readBack value).encodedLen ≤ maximum ∧ readBack value = canonical := by
  unfold canonicalJson
  dsimp only
  rw [canonicalizeJson_readBack]
  constructor
  · intro ran
    obtain ⟨_, written, ran⟩ := bind_eq_ok.1 ran
    obtain ⟨flat, ran⟩ := seq_eq_ok.1 ran
    obtain ⟨shaped, ran⟩ := seq_eq_ok.1 ran
    obtain ⟨_, rewritten, ended⟩ := bind_eq_ok.1 ran
    rw [mapError_eq_ok, boundedSerializedSize_eq_ok] at written rewritten
    rw [rejectIf_decide, not_lt] at flat
    rw [mapError_eq_ok, validateValueShape_eq_ok] at shaped
    exact ⟨written.1, flat, shaped, rewritten.1, (ok_eq_ok.1 ended).symm⟩
  · rintro ⟨written, flat, shaped, rewritten, rfl⟩
    refine bind_eq_ok.2 ⟨value.encodedLen, ?_, seq_eq_ok.2 ⟨?_, seq_eq_ok.2 ⟨?_,
      bind_eq_ok.2 ⟨(readBack value).encodedLen, ?_, rfl⟩⟩⟩⟩
    · rw [mapError_eq_ok, boundedSerializedSize_eq_ok]
      exact ⟨written, rfl⟩
    · rw [rejectIf_decide, not_lt]
      exact flat
    · rw [mapError_eq_ok, validateValueShape_eq_ok]
      exact shaped
    · rw [mapError_eq_ok, boundedSerializedSize_eq_ok]
      exact ⟨rewritten, rfl⟩

theorem canonicalJsonBytes_eq_ok [NumberReader] {d : DigestDomain} {value : Json}
    {maximum : Nat} {bytes : List UInt8} : canonicalJsonBytes d value maximum = .ok bytes ↔
      canonicalJson value maximum = .ok (readBack value) ∧
        frame d (readBack value).encode = bytes := by
  constructor
  · intro ran
    obtain ⟨canonical, read, framed⟩ := bind_eq_ok.1 ran
    obtain rfl := (canonicalJson_eq_ok.1 read).2.2.2.2
    exact ⟨read, (ok_eq_ok.1 framed).symm⟩
  · rintro ⟨read, rfl⟩
    exact bind_eq_ok.2 ⟨_, read, rfl⟩

/-- **Digest.**  The digest is taken of the bytes: the framed text of the value read back. -/
theorem canonicalJsonSha256_eq_ok [Sha256] {d : DigestDomain} {value : Json} {maximum : Nat}
    {digest : String} : canonicalJsonSha256 d.text value maximum = .ok digest ↔
      canonicalJsonBytes d value maximum = .ok (frame d (readBack value).encode) ∧
        digest = Sha256.digest (.completion d.text (readBack value)) := by
  rw [canonicalJsonBytes_eq_ok]
  constructor
  · intro ran
    obtain ⟨canonical, read, hashed⟩ := bind_eq_ok.1 ran
    obtain rfl := (canonicalJson_eq_ok.1 read).2.2.2.2
    exact ⟨⟨read, rfl⟩, ok_eq_ok.1 hashed⟩
  · rintro ⟨⟨read, -⟩, rfl⟩
    exact bind_eq_ok.2 ⟨_, read, rfl⟩

/-- **Bytes.**  Two digests are taken of the same bytes exactly when their domains are the same
and their values, every number as it is read, differ in the order of keys only. -/
theorem canonical_bytes_iff [NumberReader] {d e : DigestDomain} {a b : Json} {m n : Nat}
    {x y : List UInt8} (left : canonicalJsonBytes d a m = .ok x)
    (right : canonicalJsonBytes e b n = .ok y) :
    x = y ↔ d = e ∧ SameJson (readNumbers a) (readNumbers b) := by
  obtain ⟨-, rfl⟩ := canonicalJsonBytes_eq_ok.1 left
  obtain ⟨-, rfl⟩ := canonicalJsonBytes_eq_ok.1 right
  rw [← readBack_encode_eq_iff]
  constructor
  · exact frame_cancel
  · rintro ⟨rfl, texts⟩
    rw [texts]

end YHarness
