import SqliteVfs.Core.MemVfsTransfer

/-!
# Which images a checked import accepts

A checked import accepts the same images, publishes the same bytes and reports the same
error whether the image comes in one piece or in any chunks; and the images it accepts
are exactly the `Acceptable` ones.
-/

set_option autoImplicit false

namespace SqliteVfs

/-- A positive multiple of 512 bytes, with the signature and a page size that divides it:
the big-endian field at 16 is 1, for 65536, or a power of two from 512 to 32768. -/
def Acceptable (image : List UInt8) : Prop :=
  0 < image.length ∧ 512 ∣ image.length ∧ sqlite3Header <+: image ∧
    ∃ high low : UInt8, image[16]? = some high ∧ image[17]? = some low ∧
      (high.toNat * 256 + low.toNat = 1 ∧ 65536 ∣ image.length ∨
        (∃ k, 9 ≤ k ∧ k ≤ 15 ∧ high.toNat * 256 + low.toNat = 2 ^ k) ∧
          high.toNat * 256 + low.toNat ∣ image.length)

theorem pageSize_valid {field : Nat} (bounded : field < 65536) :
    ((if field = 1 then 65536 else field).isPowerOfTwo ∧
        512 ≤ (if field = 1 then 65536 else field) ∧ (if field = 1 then 65536 else field) ≤ 65536) ↔
      field = 1 ∨ ∃ k, 9 ≤ k ∧ k ≤ 15 ∧ field = 2 ^ k := by
  by_cases one : field = 1
  · rw [if_pos one]
    simp only [one, true_or, iff_true]
    exact ⟨⟨16, by decide⟩, by decide, by decide⟩
  · rw [if_neg one]
    constructor
    · rintro ⟨⟨k, rfl⟩, large, -⟩
      refine .inr ⟨k, ?_, ?_, rfl⟩
      · by_contra small
        have := Nat.pow_le_pow_right (n := 2) (by decide) (show k ≤ 8 by omega)
        omega
      · by_contra big
        have := Nat.pow_le_pow_right (n := 2) (by decide) (show 16 ≤ k by omega)
        omega
    · rintro (same | ⟨k, low, high, rfl⟩)
      · exact absurd same one
      · have := Nat.pow_le_pow_right (n := 2) (by decide) low
        exact ⟨⟨k, rfl⟩, by omega, by omega⟩

/-- Validation, one condition after the other. -/
theorem checkImportHeader_ok {header : List UInt8} {size : Nat} :
    checkImportHeader header size = .ok () ↔
      validateSize size = .ok () ∧ 18 ≤ header.length ∧ sqlite3Header <+: header ∧
        ((pageSizeField header).isPowerOfTwo ∧ 512 ≤ pageSizeField header ∧
          pageSizeField header ≤ 65536) ∧ pageSizeField header ∣ size := by
  unfold checkImportHeader
  rcases sized : validateSize size with error | ⟨⟩
  · constructor
    · intro impossible
      exact nomatch impossible
    · rintro ⟨impossible, -⟩
      exact nomatch impossible
  change (if _ then _ else _) = _ ↔ _
  by_cases signed : header.length < 18 ∨ ¬ sqlite3Header <+: header
  · rw [if_pos signed]
    constructor
    · intro impossible
      exact nomatch impossible
    · rintro ⟨-, long, signature, -⟩
      exact (signed.elim (fun short => by omega) fun missing => missing signature).elim
  rw [if_neg signed]
  push Not at signed
  by_cases page : (pageSizeField header).isPowerOfTwo ∧ 512 ≤ pageSizeField header ∧
      pageSizeField header ≤ 65536
  · rw [if_neg (not_not.mpr page)]
    by_cases divides : size % pageSizeField header ≠ 0
    · rw [if_pos divides]
      constructor
      · intro impossible
        exact nomatch impossible
      · rintro ⟨-, -, -, -, multiple⟩
        exact absurd (Nat.mod_eq_zero_of_dvd multiple) divides
    · rw [if_neg divides]
      exact ⟨fun _ => ⟨rfl, signed.1, signed.2, page,
        Nat.dvd_of_mod_eq_zero (not_not.mp divides)⟩, fun _ => rfl⟩
  · rw [if_pos page]
    constructor
    · intro impossible
      exact nomatch impossible
    · rintro ⟨-, -, -, valid, -⟩
      exact absurd valid page

theorem checkImportHeader_ok_iff (image : List UInt8) :
    checkImportHeader image image.length = .ok () ↔ Acceptable image := by
  rw [checkImportHeader_ok, validateSize_ok]
  by_cases long : 18 ≤ image.length
  · have at16 : image[16]? = some (image.getD 16 0) := by
      rw [List.getD_eq_getElem?_getD, List.getElem?_eq_getElem (by omega)]
      rfl
    have at17 : image[17]? = some (image.getD 17 0) := by
      rw [List.getD_eq_getElem?_getD, List.getElem?_eq_getElem (by omega)]
      rfl
    unfold Acceptable pageSizeField
    rw [at16, at17]
    dsimp only
    generalize image.getD 16 0 = high
    generalize image.getD 17 0 = low
    have bounded : high.toNat * 256 + low.toNat < 65536 := by
      have := high.toNat_lt
      have := low.toNat_lt
      omega
    rw [pageSize_valid bounded]
    constructor
    · rintro ⟨⟨large, blocks⟩, -, signature, page, multiple⟩
      refine ⟨by omega, Nat.dvd_of_mod_eq_zero blocks, signature, high, low, rfl, rfl, ?_⟩
      by_cases one : high.toNat * 256 + low.toNat = 1
      · rw [if_pos one] at multiple
        exact .inl ⟨one, multiple⟩
      · rw [if_neg one] at multiple
        exact .inr ⟨page.resolve_left one, multiple⟩
    · rintro ⟨positive, blocks, signature, _, _, ⟨⟩, ⟨⟩, page⟩
      have large := Nat.le_of_dvd positive blocks
      refine ⟨⟨large, Nat.mod_eq_zero_of_dvd blocks⟩, long, signature, ?_⟩
      rcases page with ⟨one, multiple⟩ | ⟨power, multiple⟩
      · rw [if_pos one]
        exact ⟨.inl one, multiple⟩
      · have notOne : high.toNat * 256 + low.toNat ≠ 1 := by
          obtain ⟨k, low, -, same⟩ := power
          have := Nat.pow_le_pow_right (n := 2) (by decide) low
          omega
        rw [if_neg notOne]
        exact ⟨.inr power, multiple⟩
  · constructor
    · rintro ⟨-, enough, -⟩
      exact absurd enough long
    · rintro ⟨positive, blocks, -⟩
      have large := Nat.le_of_dvd positive blocks
      omega

variable {σ ε : Type} [FromTransferError ε] {store : DbTransfer σ ε} {name : String}

/-- However an image is cut, importing its chunks and importing it at once have the same
result and publish the same bytes; both accept exactly the acceptable images. -/
theorem chunked_import_agrees (bytes : List UInt8)
    (laws : ImportStore store name bytes.length) (s : σ) (importable : laws.Importable s)
    (small : bytes.length < u64Size) (chunks : List (List UInt8))
    (cut : chunks.flatten = bytes) :
    let streamed := (store.importChunks name bytes.length chunks).run s
    let direct := (store.importDb name bytes).run s
    streamed.1 = direct.1 ∧
      (∀ image, laws.Published streamed.2 image ↔ laws.Published direct.2 image) ∧
      (direct.1 = .ok () ↔ Acceptable bytes) ∧
      (direct.1 = .ok () → laws.Published direct.2 (resetVersions bytes)) ∧
      (direct.1 ≠ .ok () → (∃ error, direct.1 = .err (ofTransfer (.importDb error))) ∧
        ∀ image, ¬ laws.Published direct.2 image) := by
  intro streamed direct
  obtain ⟨streamedNext, streamedRun, streamedSettled⟩ := laws.importChunks_settled importable
    chunks small (by rw [cut])
  obtain ⟨directNext, directRun, directSettled⟩ := laws.importDb_settled importable small
  rw [cut] at streamedRun streamedSettled
  have verdict_eq : verdict .checked bytes = checkImportHeader bytes bytes.length := rfl
  have streamed_eq : streamed = _ := streamedRun
  have direct_eq : direct = _ := directRun
  rw [streamed_eq, direct_eq]
  unfold ImportStore.Settled at streamedSettled directSettled
  rw [← checkImportHeader_ok_iff, ← verdict_eq]
  rcases result : verdict .checked bytes with error | ⟨⟩
  · rw [result] at streamedSettled directSettled
    refine ⟨rfl, fun image => ?_, ?_, fun ok => (nomatch ok),
      fun _ => ⟨⟨error, rfl⟩, fun image => laws.unpublished _ _ directSettled⟩⟩
    · exact ⟨fun published => absurd published (laws.unpublished _ _ streamedSettled),
        fun published => absurd published (laws.unpublished _ _ directSettled)⟩
    · exact ⟨fun ok => (nomatch ok), fun ok => (nomatch ok)⟩
  · rw [result] at streamedSettled directSettled
    refine ⟨rfl, fun image => ?_, ⟨fun _ => rfl, fun _ => rfl⟩, fun _ => directSettled,
      fun refused => absurd rfl refused⟩
    constructor
    · intro published
      rw [laws.unique _ _ _ published streamedSettled]
      exact directSettled
    · intro published
      rw [laws.unique _ _ _ published directSettled]
      exact streamedSettled

def onePage : List UInt8 := sqlite3Header ++ [2, 0] ++ List.replicate 494 0

theorem onePage_in_chunks :
    (((MemVfs.transfers 32 fun _ _ => true).importChunks "a" onePage.length
      [sqlite3Header, [2], 0 :: List.replicate 494 0]).run ⟨∅, [], 0⟩).1 = .ok () := by
  have length : onePage.length = 512 := by
    rw [onePage, List.length_append, List.length_append, List.length_replicate]
    rfl
  have acceptable : Acceptable onePage := by
    refine ⟨by omega, by rw [length], ⟨_, (List.append_assoc _ _ _).symm⟩, 2, 0, rfl, rfl,
      .inr ⟨?_, ?_⟩⟩
    · exact ⟨9, by decide, by decide, by decide⟩
    · rw [length]
      decide
  have empty : MemVfs.Sound 32 ⟨∅, [], 0⟩ := by
    refine ⟨fun content member => (nomatch member), fun name file found => ?_⟩
    rw [AList.lookup_empty] at found
    exact nomatch found
  have agrees := chunked_import_agrees onePage
    (MemVfs.importStore "a" onePage.length (by decide) (fun _ _ => rfl) (by decide)
      (by rw [length]; decide)) ⟨∅, [], 0⟩ ⟨empty, AList.notMem_empty "a"⟩
    (by rw [length]; decide) [sqlite3Header, [2], 0 :: List.replicate 494 0]
    (by simp only [onePage, List.flatten_cons, List.flatten_nil, List.append_nil,
      List.append_assoc, List.cons_append, List.nil_append])
  exact agrees.1.trans (agrees.2.2.1.mpr acceptable)

end SqliteVfs
