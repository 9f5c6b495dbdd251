import SqliteVfs.Core.Transfer

/-!
# What the transfer functions do

One case analysis for each function of `DbImport`, over any target: the later results
about imports cite these and never unfold the functions.
-/

set_option autoImplicit false

namespace SqliteVfs

variable {σ ε : Type}

theorem validateSize_ok {size : Nat} :
    validateSize size = .ok () ↔ 512 ≤ size ∧ size % 512 = 0 := by
  unfold validateSize
  split <;> rename_i h <;> simp at h ⊢ <;> omega

theorem validateSize_error {size : Nat} (h : validateSize size ≠ .ok ()) :
    validateSize size = .error .invalidDbSize := by
  unfold validateSize at h ⊢
  split at h
  · rename_i small
    exact if_pos small
  · exact absurd rfl h

/-- Only the length up to 18 and the first 18 bytes of the header matter. -/
theorem checkImportHeader_take (header : List UInt8) (size : Nat) :
    checkImportHeader (header.take 18) size = checkImportHeader header size := by
  have short : (header.take 18).length < 18 ↔ header.length < 18 := by
    rw [List.length_take]
    omega
  have signature : sqlite3Header <+: header.take 18 ↔ sqlite3Header <+: header := by
    rw [List.prefix_take_iff]
    simp [sqlite3Header]
  have page : pageSizeField (header.take 18) = pageSizeField header := by
    simp [pageSizeField, List.getD_eq_getElem?_getD]
  unfold checkImportHeader
  simp only [short, signature, page]

namespace DbImport

@[simp] theorem self_run (self : DbImport σ ε) (s : σ) :
    (DbImport.self : M σ ε _).run (self, s) = (.ok self, (self, s)) := rfl

@[simp] theorem update_run (f : DbImport σ ε → DbImport σ ε) (self : DbImport σ ε) (s : σ) :
    (update f : M σ ε Unit).run (self, s) = (.ok (), (f self, s)) := rfl

def collected (self : DbImport σ ε) (bytes : List UInt8) : List UInt8 :=
  if self.mode = .checked ∧ self.offset < self.header.length then
    self.header.take self.offset ++ bytes.take (self.header.length - self.offset) ++
      self.header.drop
        (self.offset + min bytes.length (self.header.length - self.offset))
  else self.header

def Completes (self : DbImport σ ε) (bytes : List UInt8) : Prop :=
  self.mode = .checked ∧ self.offset < self.header.length ∧
    self.header.length ≤ self.offset + bytes.length

instance (self : DbImport σ ε) (bytes : List UInt8) : Decidable (self.Completes bytes) :=
  inferInstanceAs (Decidable (_ ∧ _ ∧ _))

/-- `dbImport` has taken exactly `image`, whose first bytes fill its header buffer. -/
structure Filled (dbImport : DbImport σ ε) (image : List UInt8) : Prop where
  offset_eq : dbImport.offset = image.length
  length_header : dbImport.header.length = 18
  header_eq : dbImport.mode = .checked → dbImport.header.take dbImport.offset = image.take 18

theorem length_collected (self : DbImport σ ε) (bytes : List UInt8) :
    (self.collected bytes).length = self.header.length := by
  unfold collected
  split
  · simp
    omega
  · rfl

theorem Filled.take_collected {dbImport : DbImport σ ε} {image : List UInt8}
    (filled : Filled dbImport image) (checked : dbImport.mode = .checked) (bytes : List UInt8) :
    (dbImport.collected bytes).take (dbImport.offset + bytes.length) =
      (image ++ bytes).take 18 := by
  have header := filled.header_eq checked
  have offset := filled.offset_eq
  have length := filled.length_header
  unfold collected
  by_cases collecting : dbImport.offset < 18
  · have whole : image.take 18 = image := List.take_of_length_le (by omega)
    rw [if_pos ⟨checked, by omega⟩, header, length, whole]
    by_cases short : dbImport.offset + bytes.length ≤ 18
    · have chunk : bytes.take (18 - dbImport.offset) = bytes := List.take_of_length_le (by omega)
      have both : (image ++ bytes).take 18 = image ++ bytes :=
        List.take_of_length_le (by simp; omega)
      rw [chunk, both]
      exact List.take_left' (by simp; omega)
    · have full : List.drop (dbImport.offset + min bytes.length (18 - dbImport.offset))
          dbImport.header = [] := List.drop_eq_nil_of_le (by omega)
      rw [full, List.append_nil, List.take_of_length_le (by simp; omega), List.take_append,
        ← offset, whole]
  · rw [if_neg fun h => by omega, List.take_of_length_le (by omega),
      List.take_append_of_le_length (by omega), ← header, List.take_of_length_le (by omega)]

/-- The chunk that completes the header is validated as the bytes of the image are. -/
theorem Filled.check_collected {dbImport : DbImport σ ε} {image bytes : List UInt8}
    (filled : Filled dbImport image) (completes : dbImport.Completes bytes) (size : Nat) :
    checkImportHeader (dbImport.collected bytes) size =
      checkImportHeader (image ++ bytes) size := by
  obtain ⟨checked, -, full⟩ := completes
  rw [← checkImportHeader_take (image ++ bytes), ← filled.take_collected checked,
    List.take_of_length_le (by rw [length_collected]; omega)]

theorem Filled.completes {dbImport : DbImport σ ε} {image bytes : List UInt8}
    (filled : Filled dbImport image) :
    dbImport.Completes bytes ↔
      dbImport.mode = .checked ∧ image.length < 18 ∧ 18 ≤ image.length + bytes.length := by
  unfold Completes
  rw [filled.length_header, filled.offset_eq]

theorem Filled.append {dbImport : DbImport σ ε} {image : List UInt8}
    (filled : Filled dbImport image) (bytes : List UInt8) :
    Filled { dbImport with
      header := dbImport.collected bytes
      offset := dbImport.offset + bytes.length
      failed := false } (image ++ bytes) where
  offset_eq := by
    rw [List.length_append, ← filled.offset_eq]
  length_header := by
    rw [length_collected]
    exact filled.length_header
  header_eq checked := filled.take_collected checked bytes

theorem Filled.new (target : ImportTarget σ ε) (size : Nat) (mode : ImportMode) :
    Filled (DbImport.new target size mode) [] :=
  ⟨rfl, rfl, fun _ => rfl⟩

variable [FromTransferError ε]

theorem fillHeader_run (self : DbImport σ ε) (s : σ) (bytes : List UInt8) :
    (fillHeader bytes (self.offset + bytes.length)).run (self, s) =
      if self.Completes bytes then
        (Prog.ofExcept (ofImportDb (checkImportHeader (self.collected bytes) self.size))).run
          ({ self with header := self.collected bytes }, s)
      else (.ok (), ({ self with header := self.collected bytes }, s)) := by
  unfold fillHeader
  rw [Prog.bind_ok (self_run self s)]
  by_cases collecting : self.mode = .checked ∧ self.offset < self.header.length
  · rw [if_pos collecting]
    dsimp only
    have room : (Prog.checkedSub self.header.length self.offset : M σ ε Nat) =
        pure (self.header.length - self.offset) := Prog.checkedSub_of_le (by omega)
    rw [room, Prog.pure_bind]
    have within : min bytes.length (self.header.length - self.offset) ≤ bytes.length := by
      omega
    have part : (Prog.slice bytes 0 (min bytes.length (self.header.length - self.offset)) :
        M σ ε _) = pure (bytes.take (self.header.length - self.offset)) := by
      rw [Prog.slice_of_le (Nat.zero_le _) within]
      congr 1
      rw [List.drop_zero, List.take_eq_take_iff]
      omega
    rw [part, Prog.pure_bind]
    have copy : (Prog.copyInto self.header self.offset
        (self.offset + min bytes.length (self.header.length - self.offset))
        (bytes.take (self.header.length - self.offset)) : M σ ε _) =
          pure (self.collected bytes) := by
      rw [Prog.copyInto_of_le (by omega) (by omega) (by simp; omega)]
      unfold collected
      rw [if_pos collecting]
    rw [copy, Prog.pure_bind, Prog.bind_ok (update_run _ self s)]
    by_cases full : self.header.length ≤ self.offset + bytes.length
    · rw [if_pos (by rw [length_collected]; exact full), if_pos ⟨collecting.1, collecting.2, full⟩]
    · rw [if_neg (by rw [length_collected]; exact full), if_neg fun h => full h.2.2]
      rfl
  · have incomplete : ¬ self.Completes bytes := fun h => collecting ⟨h.1, h.2.1⟩
    have kept : self.collected bytes = self.header := if_neg collecting
    rw [if_neg collecting, if_neg incomplete, kept]
    rfl

def afterIssue (self : DbImport σ ε) (bytes : List UInt8) : Outcome ε Unit → DbImport σ ε
  | .ok () => { self with
      header := self.collected bytes
      offset := self.offset + bytes.length
      failed := false }
  | .err _ => { self with header := self.collected bytes, failed := true }
  | .halt _ => { self with header := self.collected bytes }

inductive WriteCase (self : DbImport σ ε) (s : σ) (bytes : List UInt8) :
    Outcome ε Unit → DbImport σ ε × σ → Prop where
  | sticky (failed : self.failed = true) :
      WriteCase self s bytes (.err (ofTransfer .importFailed)) (self, s)
  | overflow (running : self.failed = false) (exceeds : u64Size ≤ self.offset + bytes.length) :
      WriteCase self s bytes (.err (ofTransfer .offsetOverflow)) ({ self with failed := true }, s)
  | excess (running : self.failed = false) (exceeds : self.size < self.offset + bytes.length) :
      WriteCase self s bytes
        (.err (ofTransfer (.sizeMismatch self.size (self.offset + bytes.length))))
        ({ self with failed := true }, s)
  | rejected (error : ImportDbError) (running : self.failed = false)
      (fits : self.offset + bytes.length ≤ self.size) (completes : self.Completes bytes)
      (invalid : checkImportHeader (self.collected bytes) self.size = .error error) :
      WriteCase self s bytes (.err (ofTransfer (.importDb error)))
        ({ self with header := self.collected bytes, failed := true }, s)
  | empty (running : self.failed = false) (fits : self.offset + bytes.length ≤ self.size)
      (valid : self.Completes bytes → checkImportHeader (self.collected bytes) self.size = .ok ())
      (nothing : bytes = []) :
      WriteCase self s bytes (.ok ())
        ({ self with
            header := self.collected bytes
            offset := self.offset + bytes.length
            failed := false }, s)
  | issued (reply : Outcome ε Unit) (next : σ) (running : self.failed = false)
      (fits : self.offset + bytes.length ≤ self.size)
      (valid : self.Completes bytes → checkImportHeader (self.collected bytes) self.size = .ok ())
      (something : bytes ≠ [])
      (run : (self.target.writeAt self.offset bytes).run s = (reply, next)) :
      WriteCase self s bytes reply (self.afterIssue bytes reply, next)

theorem writeChunk_run (self : DbImport σ ε) (s : σ) (bytes : List UInt8) :
    (writeChunk bytes).run (self, s) =
      if u64Size ≤ self.offset + bytes.length then
        (.err (ofTransfer .offsetOverflow), (self, s))
      else if self.size < self.offset + bytes.length then
        (.err (ofTransfer (.sizeMismatch self.size (self.offset + bytes.length))), (self, s))
      else (do
        fillHeader bytes (self.offset + bytes.length)
        if bytes ≠ [] then Prog.onSnd (self.target.writeAt self.offset bytes) else pure ()
        update fun self' =>
          { self' with offset := self.offset + bytes.length } : M σ ε Unit).run (self, s) := by
  unfold writeChunk
  rw [Prog.bind_ok (self_run self s)]
  dsimp only
  split
  · rfl
  · split
    · rfl
    · rfl

theorem write_run (self : DbImport σ ε) (s : σ) (bytes : List UInt8) :
    (write bytes).run (self, s) =
      if self.failed = true then (.err (ofTransfer .importFailed), (self, s))
      else match (writeChunk bytes).run (self, s) with
        | (.ok (), self', next) => (.ok (), ({ self' with failed := false }, next))
        | (.err error, self', next) => (.err error, ({ self' with failed := true }, next))
        | (.halt why, self', next) => (.halt why, (self', next)) := by
  unfold write
  rw [Prog.bind_ok (self_run self s)]
  split
  · rfl
  · rw [Prog.bind_run]
    unfold Prog.attempt
    simp only
    rcases (writeChunk bytes).run (self, s) with ⟨outcome, self', next⟩
    cases outcome <;> rfl

theorem write_cases (self : DbImport σ ε) (s : σ) (bytes : List UInt8) :
    WriteCase self s bytes ((write bytes).run (self, s)).1 ((write bytes).run (self, s)).2 := by
  rw [write_run]
  by_cases failed : self.failed = true
  · rw [if_pos failed]
    exact .sticky failed
  have running : self.failed = false := by simpa using failed
  rw [if_neg failed, writeChunk_run]
  by_cases huge : u64Size ≤ self.offset + bytes.length
  · rw [if_pos huge]
    exact .overflow running huge
  rw [if_neg huge]
  by_cases long : self.size < self.offset + bytes.length
  · rw [if_pos long]
    exact .excess running long
  rw [if_neg long]
  have fits : self.offset + bytes.length ≤ self.size := by omega
  have filled := fillHeader_run self s bytes
  by_cases valid : self.Completes bytes →
      checkImportHeader (self.collected bytes) self.size = .ok ()
  · have ready : (fillHeader bytes (self.offset + bytes.length)).run (self, s) =
        (.ok (), ({ self with header := self.collected bytes }, s)) := by
      rw [filled]
      split
      · rename_i completes
        rw [valid completes]
        rfl
      · rfl
    rw [Prog.bind_ok ready]
    by_cases nothing : bytes = []
    · rw [if_neg (by simpa using nothing)]
      exact .empty running fits valid nothing
    · rw [if_pos nothing, Prog.bind_run]
      unfold Prog.onSnd
      dsimp only
      rcases run : (self.target.writeAt self.offset bytes).run s with ⟨reply, next⟩
      have issued := WriteCase.issued reply next running fits valid nothing run
      cases reply with
      | ok value => exact issued
      | err error => exact issued
      | halt why => exact issued
  · push Not at valid
    obtain ⟨completes, invalid⟩ := valid
    rw [if_pos completes] at filled
    rcases validation : checkImportHeader (self.collected bytes) self.size with error | ⟨⟩
    · rw [validation] at filled
      rw [Prog.bind_err filled]
      exact .rejected error running fits completes validation
    · exact absurd validation invalid

/-- What `finish` does before it disposes of the target. -/
def reset (self : DbImport σ ε) : Prog σ ε Unit :=
  if self.mode = .checked then self.target.writeAt 18 [1, 1] else pure ()

theorem finish_failed (self : DbImport σ ε) (failed : self.failed = true) :
    self.finish = self.target.reclaim (ofTransfer .importFailed) := by
  unfold finish
  rewrite [if_pos failed]
  rfl

theorem finish_incomplete (self : DbImport σ ε) (running : self.failed = false)
    (incomplete : self.offset ≠ self.size) :
    self.finish =
      self.target.reclaim (ofTransfer (.sizeMismatch self.size self.offset)) := by
  unfold finish
  have notFailed : ¬ self.failed = true := by simp [running]
  rewrite [if_neg notFailed, if_pos incomplete]
  rfl

theorem finish_complete (self : DbImport σ ε) (running : self.failed = false)
    (complete : self.offset = self.size) :
    self.finish = (do
      let result ← Prog.attempt self.reset
      match result with
      | .ok () => self.target.commit
      | .error error => self.target.reclaim error) := by
  unfold finish reset
  have notFailed : ¬ self.failed = true := by simp [running]
  have notShort : ¬ self.offset ≠ self.size := by simp [complete]
  rewrite [if_neg notFailed, if_neg notShort]
  rfl

end DbImport

end SqliteVfs
