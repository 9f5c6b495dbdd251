import SqliteVfs.Core.Error

/-!
# SQLite result codes

`as_raw` and `from_raw` of `VfsErrorCode`.  A raw code is a C `int`; `Other` can only be
had from `from_raw`.
-/

set_option autoImplicit false

namespace SqliteVfs

def SQLITE_OK : Int := 0
def SQLITE_NOTFOUND : Int := 12

namespace VfsErrorCode

/-- `as_raw`, for codes that are never negative. -/
def rawCode : VfsErrorCode → Nat
  | error => 1
  | permission => 3
  | busy => 5
  | locked => 6
  | noMemory => 7
  | readOnly => 8
  | interrupt => 9
  | io => 10
  | corrupt => 11
  | notFound => 12
  | full => 13
  | cantOpen => 14
  | protocol => 15
  | misuse => 21
  | auth => 23
  | ioRead => 266
  | ioShortRead => 522
  | ioWrite => 778
  | ioSync => 1034
  | ioDirectorySync => 1290
  | ioTruncate => 1546
  | ioStat => 1802
  | ioUnlock => 2058
  | ioReadLock => 2314
  | ioDelete => 2570
  | ioAccess => 3338
  | ioCheckReservedLock => 3594
  | ioLock => 3850
  | ioClose => 4106
  | ioDeleteNoEntry => 5898
  | other code => code.raw

def asRaw (code : VfsErrorCode) : Int := code.rawCode

/-- The named variants of `from_raw`, and `Other`. -/
def named : Nat → VfsErrorCode
  | 1 => error
  | 3 => permission
  | 5 => busy
  | 6 => locked
  | 7 => noMemory
  | 8 => readOnly
  | 9 => interrupt
  | 10 => io
  | 11 => corrupt
  | 12 => notFound
  | 13 => full
  | 14 => cantOpen
  | 15 => protocol
  | 21 => misuse
  | 23 => auth
  | 266 => ioRead
  | 522 => ioShortRead
  | 778 => ioWrite
  | 1034 => ioSync
  | 1290 => ioDirectorySync
  | 1546 => ioTruncate
  | 1802 => ioStat
  | 2058 => ioUnlock
  | 2314 => ioReadLock
  | 2570 => ioDelete
  | 3338 => ioAccess
  | 3594 => ioCheckReservedLock
  | 3850 => ioLock
  | 4106 => ioClose
  | 5898 => ioDeleteNoEntry
  | code => other ⟨code⟩

/-- `from_raw`.  SQLite keeps the primary code in the low eight bits, from `SQLITE_ERROR`
to `SQLITE_WARNING`. -/
def fromRaw (code : Int) : Option VfsErrorCode :=
  if code < 0 ∨ code.toNat % 256 < 1 ∨ 28 < code.toNat % 256 then none
  else some (named code.toNat)

/-- The codes that the public API can make: the named ones, and what `from_raw` returns. -/
def Constructible : VfsErrorCode → Prop
  | other code => fromRaw code.raw = some (other code)
  | _ => True

theorem fromRaw_asRaw {code : VfsErrorCode} (made : code.Constructible) :
    fromRaw code.asRaw = some code := by
  cases code with
  | other code => exact made
  | _ => rfl

theorem asRaw_ne_ok {code : VfsErrorCode} (made : code.Constructible) : code.asRaw ≠ SQLITE_OK := by
  intro ok
  have back := fromRaw_asRaw made
  rw [ok] at back
  exact nomatch back

end VfsErrorCode

end SqliteVfs
