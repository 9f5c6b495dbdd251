import SqliteVfs.Base.Utf8
import SqliteVfs.Callbacks.ErrorSpec

/-!
# Text for SQLite

What the callbacks write into a buffer of the caller: a diagnostic is cut where its last
character no longer fits, and a pathname is written whole or not at all.
-/

set_option autoImplicit false

namespace SqliteVfs

namespace Callbacks

variable {σ H : Type} {backend : Backend σ H} {w w' : World σ H} {message : String}
  {text kept : List Char} {room index count start : Nat}

/-! ## Boundaries -/

theorem nameBytes_ofList (text : List Char) :
    nameBytes (String.ofList text) = Utf8.encoded text := by
  rw [nameBytes, String.toUTF8_eq_toByteArray, String.toByteArray_ofList, List.utf8Encode,
    List.data_toByteArray, List.toList_toArray]
  rfl

theorem isCharBoundary_iff (inside : index ≤ (Utf8.encoded text).length) :
    isCharBoundary (Utf8.encoded text) index = true ↔ Utf8.Cut text index := by
  unfold isCharBoundary
  rcases Nat.lt_or_eq_of_le inside with within | rfl
  · have found := List.getElem?_eq_getElem within
    rw [found, Utf8.cut_iff_byte found]
    by_cases zero : index = 0
    · subst zero
      have starts := (Utf8.cut_iff_byte found).mp (Utf8.cut_zero text)
      simp only [decide_true, Bool.true_or, true_iff]
      exact starts
    · simp only [zero, decide_false, Bool.false_or, decide_eq_true_eq]
  · have past := List.getElem?_eq_none (Nat.le_refl (Utf8.encoded text).length)
    rw [past]
    simp only [decide_true, Bool.or_true, true_iff]
    exact Utf8.cut_length text

/-- The search passes no boundary. -/
theorem backToBoundary_found {bytes : List UInt8}
    (found : backToBoundary bytes start = some count) :
    isCharBoundary bytes count = true ∧
      ∀ index, count < index → index ≤ start → isCharBoundary bytes index = false := by
  induction start with
  | zero =>
    obtain rfl : 0 = count := Option.some.inj found
    exact ⟨rfl, fun index above below => by omega⟩
  | succ start ih =>
    unfold backToBoundary at found
    by_cases boundary : isCharBoundary bytes (start + 1) = true
    · rw [if_pos boundary] at found
      obtain rfl := Option.some.inj found
      exact ⟨boundary, fun index above below => by omega⟩
    · rw [if_neg boundary] at found
      obtain ⟨reached, passed⟩ := ih found
      refine ⟨reached, fun index above below => ?_⟩
      rcases Nat.lt_or_eq_of_le below with before | rfl
      · exact passed index above (Nat.le_of_lt_succ before)
      · exact Bool.eq_false_iff.mpr boundary

/-! ## Diagnostics -/

structure LongestPrefix (message : String) (room : Nat) (kept : List Char) : Prop where
  begins : kept <+: message.toList
  fits : (nameBytes (String.ofList kept)).length ≤ room
  longest : ∀ other, other <+: message.toList →
    (nameBytes (String.ofList other)).length ≤ room → other <+: kept

structure Written (out : Bool) (capacity : Int) (message : String) (w w' : World σ H) : Prop where
  nothing : out = false ∨ capacity ≤ 0 → w' = w
  text : out = true → 0 < capacity → ∃ kept, LongestPrefix message (capacity.toNat - 1) kept ∧
    w' = { w with buffer := nameBytes (String.ofList kept) ++
      0 :: w.buffer.drop ((nameBytes (String.ofList kept)).length + 1) }
  beyond : ∀ index : Nat, capacity ≤ index → w'.buffer[index]? = w.buffer[index]?

/-- The search from where the room ends, or the message, finds the longest prefix. -/
theorem longestPrefix_found
    (found : backToBoundary (nameBytes message) (min (nameBytes message).length room) = some count)
    (below : count ≤ min (nameBytes message).length room) :
    ∃ kept, LongestPrefix message room kept ∧
      (nameBytes message).take count = nameBytes (String.ofList kept) ∧
      (nameBytes (String.ofList kept)).length = count := by
  obtain ⟨text, rfl⟩ : ∃ text, message = String.ofList text :=
    ⟨message.toList, String.ofList_toList.symm⟩
  rw [nameBytes_ofList] at found below ⊢
  obtain ⟨reached, passed⟩ := backToBoundary_found found
  have inMessage := Nat.le_trans below (Nat.min_le_left _ _)
  have inRoom := Nat.le_trans below (Nat.min_le_right _ _)
  obtain ⟨kept, rest, rfl, length⟩ := (isCharBoundary_iff inMessage).mp reached
  refine ⟨kept, ⟨?_, ?_, ?_⟩, ?_, ?_⟩
  · rw [String.toList_ofList]
    exact List.prefix_append kept rest
  · rw [nameBytes_ofList, length]
    exact inRoom
  · intro other begins fits
    rw [nameBytes_ofList] at fits
    rw [String.toList_ofList] at begins
    rcases List.prefix_or_prefix_of_prefix begins (List.prefix_append kept rest) with
      within | longer
    · exact within
    · -- A longer prefix ends at a boundary that the search came past.
      obtain ⟨more, rfl⟩ := longer
      obtain ⟨remaining, whole⟩ := id begins
      have cut : Utf8.Cut (kept ++ rest) (Utf8.encoded (kept ++ more)).length :=
        ⟨kept ++ more, remaining, whole.symm, rfl⟩
      have total : (Utf8.encoded (kept ++ rest)).length =
          (Utf8.encoded (kept ++ more)).length + (Utf8.encoded remaining).length := by
        rw [← whole, Utf8.encoded_append (kept ++ more), List.length_append]
      have boundary := (isCharBoundary_iff (by omega)).mpr cut
      by_cases same : (Utf8.encoded (kept ++ more)).length = count
      · rw [Utf8.encoded_append, List.length_append, length] at same
        have empty : Utf8.encoded more = [] := List.eq_nil_of_length_eq_zero (by omega)
        rewrite [Utf8.eq_nil_of_encoded empty, List.append_nil]
        exact List.prefix_rfl
      · have atLeast : count ≤ (Utf8.encoded (kept ++ more)).length := by
          rw [Utf8.encoded_append, List.length_append, length]
          exact Nat.le_add_right _ _
        have missed := passed (Utf8.encoded (kept ++ more)).length (by omega) (by omega)
        exact nomatch boundary.symm.trans missed
  · rw [nameBytes_ofList, Utf8.encoded_append]
    exact List.take_left' length
  · rw [nameBytes_ofList]
    exact length

theorem writeMessage_written (w : World σ H) (out : Bool) (capacity : Int) (message : String) :
    ∃ w', (writeMessage out capacity message).run w = (.ok (), w') ∧
      Written out capacity message w w' := by
  unfold writeMessage
  by_cases nothing : out = false ∨ capacity ≤ 0
  · rw [if_pos nothing]
    refine ⟨w, rfl, fun _ => rfl, fun given room => ?_, fun _ _ => rfl⟩
    rcases nothing with null | none
    · exact nomatch given.symm.trans null
    · omega
  · rw [if_neg nothing]
    have room : 0 < capacity := Int.not_le.mp fun none => nothing (.inr none)
    obtain ⟨count, found, below⟩ := backToBoundary_le (nameBytes message)
      (min (nameBytes message).length (capacity.toNat - 1))
    obtain ⟨kept, longest, taken, length⟩ := longestPrefix_found found below
    dsimp only
    rw [found]
    refine ⟨_, rfl, fun refused => absurd refused nothing, fun _ _ => ?_, fun index past => ?_⟩
    · refine ⟨kept, longest, ?_⟩
      rw [taken, length]
    · have fits := longest.fits
      have position : index = (nameBytes (String.ofList kept)).length + 1 +
          (index - ((nameBytes (String.ofList kept)).length + 1)) := by omega
      dsimp only
      rw [taken, List.getElem?_append_right (by omega), position, List.getElem?_cons,
        if_neg (by omega), List.getElem?_drop, length]
      congr 1
      omega

theorem xGetLastError_written (w : World σ H) (nOut : Int) (zOut : Bool) :
    ∃ code w', (xGetLastError nOut zOut).run w = (.ok code, w') ∧
      Written zOut nOut (((w.recorded.getLast?).map VfsError.message).getD "") w w' := by
  unfold xGetLastError lastError
  rw [Prog.bind_assoc, Prog.get_bind, Prog.pure_bind]
  cases w.recorded.getLast? with
  | none =>
    obtain ⟨w', run, written⟩ := writeMessage_written w zOut nOut ""
    refine ⟨SQLITE_OK, w', ?_, written⟩
    rw [Prog.bind_ok run]
    rfl
  | some error =>
    obtain ⟨w', run, written⟩ := writeMessage_written w zOut nOut error.message
    refine ⟨(error.systemError.map SystemErrorCode.raw).getD 0, w', ?_, written⟩
    rw [Prog.bind_ok run]
    rfl

/-! ## Pathnames -/

def Resolved (backend : Backend σ H) (zName : Option (List UInt8)) (w : World σ H)
    (full : String) : Prop :=
  ∃ bytes name, zName = some bytes ∧ toStr bytes = some name ∧
    (backend.store.fullPathname name w.app).1 = .ok full

/-- SQLite left room for the path, and could read it back. -/
structure Fits (full : String) (nOut : Int) (zOut : Bool) : Prop where
  given : zOut = true
  noNul : 0 ∉ nameBytes full
  room : ((nameBytes full).length : Int) < nOut

structure PathWritten (backend : Backend σ H) (zName : Option (List UInt8)) (nOut : Int)
    (zOut : Bool) (w : World σ H) (code : Int) (w' : World σ H) : Prop where
  whole : ∀ full, Resolved backend zName w full → Fits full nOut zOut →
    code = SQLITE_OK ∧ w'.recorded = w.recorded ∧
      w'.buffer = nameBytes full ++ 0 :: w.buffer.drop ((nameBytes full).length + 1)
  refused : ∀ full, Resolved backend zName w full → ¬ Fits full nOut zOut → code ≠ SQLITE_OK
  untouched : (¬ ∃ full, Resolved backend zName w full ∧ Fits full nOut zOut) →
    w'.buffer = w.buffer ∧ ∃ error : VfsError, w'.recorded = w.recorded ++ [error] ∧
      code = error.rawCode

theorem PathWritten.failed {zName : Option (List UInt8)} {nOut : Int} {zOut : Bool} {code : Int}
    {error : VfsError}
    (unfit : ∀ full, Resolved backend zName w full → ¬ Fits full nOut zOut ∧ code ≠ SQLITE_OK)
    (buffer : w'.buffer = w.buffer) (recorded : w'.recorded = w.recorded ++ [error])
    (same : code = error.rawCode) : PathWritten backend zName nOut zOut w code w' where
  whole full resolved fits := absurd fits (unfit full resolved).1
  refused full resolved _ := (unfit full resolved).2
  untouched _ := ⟨buffer, error, recorded, same⟩

theorem Resolved.named {bytes : List UInt8} {name full : String} (read : toStr bytes = some name)
    (resolved : Resolved backend (some bytes) w full) :
    (backend.store.fullPathname name w.app).1 = .ok full := by
  obtain ⟨other, found, given, named, answer⟩ := resolved
  obtain rfl := Option.some.inj given
  obtain rfl := Option.some.inj (read.symm.trans named)
  exact answer

theorem xFullPathname_written (backend : Backend σ H) (w : World σ H) (zName : Option (List UInt8))
    (nOut : Int) (zOut : Bool) :
    ∃ code w', (xFullPathname backend zName nOut zOut).run w = (.ok code, w') ∧
      PathWritten backend zName nOut zOut w code w' := by
  have ownError : ∀ message, (VfsError.new .cantOpen message).rawCode ≠ SQLITE_OK := by
    intro message
    change (VfsErrorCode.cantOpen).asRaw ≠ SQLITE_OK
    decide
  cases zName with
  | none =>
    refine ⟨_, _, rfl, PathWritten.failed (fun full resolved => ?_) rfl rfl rfl⟩
    obtain ⟨bytes, name, given, -⟩ := resolved
    exact absurd given.symm (Option.some_ne_none bytes)
  | some bytes =>
    by_cases missing : zOut = false ∨ nOut ≤ 0
    · have run : xFullPathname backend (some bytes) nOut zOut =
          storeErr (VfsError.new .cantOpen "pathname output buffer is missing or empty") :=
        if_pos missing
      rw [run]
      refine ⟨_, _, rfl, PathWritten.failed (fun full resolved => ⟨?_, ownError _⟩) rfl rfl rfl⟩
      intro fits
      rcases missing with null | none
      · exact nomatch fits.given.symm.trans null
      · have room := fits.room
        omega
    · cases read : toStr bytes with
      | none =>
        have run : xFullPathname backend (some bytes) nOut zOut =
            storeErr (VfsError.new .cantOpen "filename is not valid UTF-8") := by
          unfold xFullPathname
          dsimp only
          rw [if_neg missing, read]
        rw [run]
        refine ⟨_, _, rfl, PathWritten.failed (fun full resolved => ?_) rfl rfl rfl⟩
        obtain ⟨other, name, given, named, -⟩ := resolved
        obtain rfl := Option.some.inj given
        exact absurd (named.symm.trans read) (Option.some_ne_none name)
      | some name =>
        have given : zOut = true := Bool.eq_true_of_not_eq_false fun null => missing (.inl null)
        unfold xFullPathname
        dsimp only
        rw [if_neg missing, read]
        dsimp only
        have call : (callStore (backend.store.fullPathname name)).run w =
            (.ok (backend.store.fullPathname name w.app).1,
              { w with app := (backend.store.fullPathname name w.app).2 }) := rfl
        rw [Prog.bind_ok call]
        cases answer : (backend.store.fullPathname name w.app).1 with
        | error error =>
          refine ⟨_, _, rfl, PathWritten.failed (fun full resolved => ?_) rfl rfl rfl⟩
          exact nomatch (resolved.named read).symm.trans answer
        | ok full =>
          have only : ∀ other, Resolved backend (some bytes) w other → other = full := by
            intro other resolved
            exact Except.ok.inj ((resolved.named read).symm.trans answer)
          dsimp only
          by_cases nul : 0 ∈ nameBytes full
          · rw [if_pos nul]
            refine ⟨_, _, rfl, PathWritten.failed (fun other resolved => ?_) rfl rfl rfl⟩
            rw [only other resolved]
            exact ⟨fun fits => fits.noNul nul, ownError _⟩
          · rw [if_neg nul]
            by_cases long : nOut.toNat ≤ (nameBytes full).length
            · rw [if_pos long]
              refine ⟨_, _, rfl, PathWritten.failed (fun other resolved => ?_) rfl rfl rfl⟩
              rw [only other resolved]
              refine ⟨fun fits => ?_, ownError _⟩
              have room := fits.room
              omega
            · rw [if_neg long]
              have fits : Fits full nOut zOut := ⟨given, nul, by omega⟩
              have resolved : Resolved backend (some bytes) w full :=
                ⟨bytes, name, rfl, read, answer⟩
              refine ⟨_, _, rfl, ⟨fun other found _ => ?_, fun other found unfit => ?_,
                fun none => ?_⟩⟩
              · rw [only other found]
                exact ⟨rfl, rfl, rfl⟩
              · rw [only other found] at unfit
                exact absurd fits unfit
              · exact absurd ⟨full, resolved, fits⟩ none

/-- No callback writes past the buffer, cuts a character or leaves a part of a path. -/
theorem bounded_text_output (backend : Backend σ H) (w : World σ H) :
    (∀ (out : Bool) (capacity : Int) (message : String),
      ∃ w', (writeMessage out capacity message).run w = (.ok (), w') ∧
        Written out capacity message w w') ∧
    (∀ (nOut : Int) (zOut : Bool), ∃ code w', (xGetLastError nOut zOut).run w = (.ok code, w') ∧
      Written zOut nOut (((w.recorded.getLast?).map VfsError.message).getD "") w w') ∧
    (∀ (nByte : Int) (zErrMsg : Bool), ∃ w', (xDlError nByte zErrMsg).run w = (.ok (), w') ∧
      Written zErrMsg nByte "dynamic extension loading is not supported" w w') ∧
    ∀ (zName : Option (List UInt8)) (nOut : Int) (zOut : Bool),
      ∃ code w', (xFullPathname backend zName nOut zOut).run w = (.ok code, w') ∧
        PathWritten backend zName nOut zOut w code w' :=
  ⟨writeMessage_written w, xGetLastError_written w,
    fun nByte zErrMsg => writeMessage_written w zErrMsg nByte _, xFullPathname_written backend w⟩

end Callbacks

end SqliteVfs
