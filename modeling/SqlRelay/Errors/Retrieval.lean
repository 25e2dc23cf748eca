import Mathlib.Algebra.Group.Int.Defs
import Mathlib.Algebra.Group.Nat.Defs
import SqlRelay.Foundation.CString

/-!
# Retrieving the error of a cursor

The error of a cursor is taken from the driver once and kept.  Whenever somebody asks for it, the error
translations are run on what is kept, and the text that they make goes into the buffer of the error.
-/

namespace SqlRelay.Errors

open SqlRelay.Foundation

/-! ## The source -/

/-- What a translation makes of an error.  The size of its text is a `uint32_t`. -/
structure Translated where
  number : Int
  error : List Byte
  sqlstate : List Byte
  short : error.length < 2 ^ 32
  deriving DecidableEq

/-- A module gets the number, the error and the sqlstate.  It may take the error for a C string, or for as
many bytes as its size says. -/
abbrev Translation := Int → (string sized sqlstate : List Byte) → Option Translated

theorem length_take_lt (error : List Byte) (errorsize : UInt32) :
    (error.take errorsize.toNat).length < 2 ^ 32 :=
  Nat.lt_of_le_of_lt (List.length_take_le _ _) errorsize.toNat_lt

/-- The loop of `sqlrerrortranslations::run`.  Behind the text of a translation there is its terminator. -/
def run : List Translation → Int → List Byte → UInt32 → List Byte → Option Translated
  | [], number, error, errorsize, sqlstate =>
      some ⟨number, error.take errorsize.toNat, sqlstate, length_take_lt error errorsize⟩
  | translation :: later, number, error, errorsize, sqlstate =>
      match translation number (CString.contents error) (error.take errorsize.toNat) sqlstate with
      | none => none
      | some translated =>
          run later translated.number (translated.error ++ [0]) (UInt32.ofNat translated.error.length)
            translated.sqlstate

/-- `charstring::safeCopy`, which is not part of the source.  It makes of a buffer, its size and a text what
the buffer holds then: the whole text if it fits with a terminator, and the same if it is copied once more. -/
structure SafeCopy where
  copy : (destination : List Byte) → (destinationsize : Nat) → (source : List Byte) → List Byte
  whole : ∀ destination {destinationsize source}, source.length < destinationsize →
    (copy destination destinationsize source).take source.length = source
  again : ∀ destination destinationsize source,
    copy (copy destination destinationsize source) destinationsize source =
      copy destination destinationsize source

/-- What is written over the front of a buffer. -/
def overwrite (buffer written : List Byte) : List Byte := written ++ buffer.drop written.length

/-- `setSqlState` -/
def cutSqlState (sqlstate : List Byte) : List Byte := (CString.contents sqlstate).take 5

/-- The configured translations, if there are any, and the size of the errors, below the buffer's. -/
structure Server where
  safeCopy : SafeCopy
  translations : Option (List Translation)
  maxerrorsize : Nat
  fits : maxerrorsize + 1 < 2 ^ 32

def Server.errorbuffersize (server : Server) : Nat := server.maxerrorsize + 1

/-- The error that a driver reports, which it cuts to the size that it is given. -/
structure DriverError (server : Server) where
  text : List Byte
  number : Int
  sqlstate : List Byte
  fits : text.length < server.maxerrorsize

/-- The error of a cursor.  The number is what a `uint32_t` holds of it. -/
structure CursorError where
  errorbuffer : List Byte
  errorsize : UInt32
  errornumber : Int
  sqlstate : List Byte
  deriving DecidableEq, Repr

/-- What a call of `getError` gives: the number, the size, and as many bytes of the buffer as it says. -/
structure Returned where
  errorcode : Int
  errorsize : UInt32
  error : List Byte
  deriving DecidableEq, Repr

namespace Server

variable (server : Server) (driver : DriverError server)

/-- The error of the driver as it is kept. -/
def kept (buffer : List Byte) : CursorError where
  errorbuffer := overwrite buffer (driver.text ++ [0])
  errorsize := UInt32.ofNat driver.text.length
  errornumber := driver.number % 2 ^ 32
  sqlstate := cutSqlState driver.sqlstate

/-- An error that has been saved already is not overwritten. -/
def saveError (cursor : CursorError) : CursorError :=
  if cursor.errornumber ≠ 0 ∨ cursor.errorsize ≠ 0 then cursor
  else server.kept driver cursor.errorbuffer

/-- The translations of an error, if they all succeed. -/
def translate (cursor : CursorError) : Option Translated :=
  match server.translations with
  | none => none
  | some translations =>
      run translations cursor.errornumber cursor.errorbuffer cursor.errorsize cursor.sqlstate

/-- What a cursor holds after its error has been translated. -/
def store (cursor : CursorError) (translated : Translated) : CursorError :=
  { cursor with
    errorbuffer := server.safeCopy.copy cursor.errorbuffer server.errorbuffersize translated.error
    sqlstate := cutSqlState translated.sqlstate }

def getError (cursor : CursorError) : Returned × CursorError :=
  let saved := server.saveError driver cursor
  match server.translate saved with
  | none => (⟨saved.errornumber, saved.errorsize, saved.errorbuffer.take saved.errorsize.toNat⟩, saved)
  | some translated =>
      let stored := server.store saved translated
      let errorsize := UInt32.ofNat translated.error.length
      (⟨translated.number, errorsize, stored.errorbuffer.take errorsize.toNat⟩, stored)

/-- What a cursor holds after so many calls. -/
def after (cursor : CursorError) : Nat → CursorError
  | 0 => cursor
  | count + 1 => (server.getError driver (after cursor count)).2

/-! ## Idempotence -/

/-- The translations applied once to the error of the driver. -/
def once (buffer : List Byte) : Int × List Byte :=
  match server.translate { server.kept driver buffer with errornumber := driver.number } with
  | none => (driver.number, driver.text)
  | some translated => (translated.number, translated.error)

/-- Each call returns this error, whole, and it fits into the buffer with its terminator. -/
def Returns (cursor : CursorError) (error : Int × List Byte) : Prop :=
  error.2.length ≤ server.maxerrorsize ∧
    ∀ count, (server.getError driver (server.after driver cursor count)).1 =
      ⟨error.1, UInt32.ofNat error.2.length, error.2⟩

/-- What the translations make of their own text, with the size and the number of the original. -/
def again (buffer : List Byte) (translated : Translated) (sqlstate : List Byte) : Option Translated :=
  server.translate { server.store (server.kept driver buffer) translated with sqlstate }

/-- The sqlstate after so many more translations. -/
def sqlstates (buffer : List Byte) (translated : Translated) : Nat → List Byte
  | 0 => cutSqlState translated.sqlstate
  | count + 1 =>
      match server.again driver buffer translated (sqlstates buffer translated count) with
      | none => sqlstates buffer translated count
      | some more => cutSqlState more.sqlstate

/-- The translations make the same of their own text, or fail on it and what is left of the original looks
the same. -/
def Repeats (translated : Translated) : Option Translated → Prop
  | none =>
      translated.number = driver.number % 2 ^ 32 ∧ translated.error.length = driver.text.length
  | some more => more.number = translated.number ∧ more.error = translated.error

/-- What is kept of the error says that there is one. -/
def IsKept : Prop := driver.number % 2 ^ 32 ≠ 0 ∨ driver.text ≠ []

/-- What the translations make of what is kept of the error is what they make of the error, it fits into the
buffer with its terminator, and if something is kept then the translations repeat themselves on it. -/
structure Stable (buffer : List Byte) : Prop where
  first : server.once driver buffer =
    match server.translate (server.kept driver buffer) with
    | none => (driver.number % 2 ^ 32, driver.text)
    | some translated => (translated.number, translated.error)
  fits : ∀ translated, server.translate (server.kept driver buffer) = some translated →
    translated.error.length ≤ server.maxerrorsize
  repeats : ∀ translated, server.translate (server.kept driver buffer) = some translated →
    server.IsKept driver → ∀ count, server.Repeats driver translated
      (server.again driver buffer translated (server.sqlstates driver buffer translated count))

end Server

/-! ## One call -/

theorem overwrite_overwrite (buffer written : List Byte) :
    overwrite (overwrite buffer written) written = overwrite buffer written := by
  rw [overwrite, overwrite, List.drop_left]

/-- What lies behind the terminator and behind the size makes no difference. -/
theorem run_congr (translations : List Translation) (number : Int) {error other : List Byte}
    {errorsize : UInt32} (sqlstate : List Byte)
    (string : CString.contents error = CString.contents other)
    (sized : error.take errorsize.toNat = other.take errorsize.toNat) :
    run translations number error errorsize sqlstate =
      run translations number other errorsize sqlstate := by
  cases translations with
  | nil => simp only [run, sized]
  | cons translation later => rw [run, run, string, sized]

theorem ofNat_length_inj {error other : List Byte} (short : error.length < 2 ^ 32)
    (shortOther : other.length < 2 ^ 32)
    (same : UInt32.ofNat error.length = UInt32.ofNat other.length) : error.length = other.length := by
  have toNat := congrArg UInt32.toNat same
  rwa [UInt32.toNat_ofNat_of_lt' short, UInt32.toNat_ofNat_of_lt' shortOther] at toNat

namespace Server

variable {server : Server} {driver : DriverError server} {buffer : List Byte} {cursor : CursorError}
variable {translated : Translated}

theorem short_text : driver.text.length < 2 ^ 32 := by
  have short := driver.fits
  have within := server.fits
  omega

theorem ofNat_length_text_eq_zero : UInt32.ofNat driver.text.length = 0 ↔ driver.text = [] := by
  constructor
  · intro zero
    have same : driver.text.length = ([] : List Byte).length :=
      ofNat_length_inj short_text (by decide) zero
    exact List.length_eq_zero_iff.mp same
  · intro empty
    rw [empty]
    rfl

theorem getError_of_none (fails : server.translate (server.saveError driver cursor) = none) :
    server.getError driver cursor =
      (⟨(server.saveError driver cursor).errornumber, (server.saveError driver cursor).errorsize,
        (server.saveError driver cursor).errorbuffer.take
          (server.saveError driver cursor).errorsize.toNat⟩, server.saveError driver cursor) := by
  rw [getError, fails]

theorem getError_of_some (succeeds : server.translate (server.saveError driver cursor) = some translated) :
    server.getError driver cursor =
      (⟨translated.number, UInt32.ofNat translated.error.length,
        (server.store (server.saveError driver cursor) translated).errorbuffer.take
          translated.error.length⟩, server.store (server.saveError driver cursor) translated) := by
  rw [getError, succeeds]
  dsimp only
  rw [UInt32.toNat_ofNat_of_lt' translated.short]

/-- A text that fits is whole in the buffer. -/
theorem take_store (fits : translated.error.length ≤ server.maxerrorsize) (cursor : CursorError) :
    (server.store cursor translated).errorbuffer.take translated.error.length = translated.error :=
  server.safeCopy.whole _ (Nat.lt_succ_of_le fits)

theorem saveError_cleared (buffer sqlstate : List Byte) :
    server.saveError driver ⟨buffer, 0, 0, sqlstate⟩ = server.kept driver buffer := by
  simp [saveError]

theorem saveError_of_not_isKept (number : cursor.errornumber = 0) (size : cursor.errorsize = 0) :
    server.saveError driver cursor = server.kept driver cursor.errorbuffer := by
  rw [saveError, if_neg]
  simp [number, size]

/-- An error that leaves nothing to be kept is taken from the driver once more. -/
theorem saveError_kept : server.saveError driver (server.kept driver buffer) = server.kept driver buffer := by
  unfold saveError
  split
  · rfl
  · rw [kept, kept, overwrite_overwrite]

theorem saveError_of_isKept (isKept : server.IsKept driver) (number : cursor.errornumber = driver.number % 2 ^ 32)
    (size : cursor.errorsize = UInt32.ofNat driver.text.length) : server.saveError driver cursor = cursor := by
  rw [saveError, if_pos]
  rw [number, size]
  cases isKept with
  | inl nonzero => exact Or.inl nonzero
  | inr nonempty => exact Or.inr (fun zero => nonempty (ofNat_length_text_eq_zero.mp zero))

theorem take_kept : (server.kept driver buffer).errorbuffer.take (server.kept driver buffer).errorsize.toNat =
    driver.text := by
  change (overwrite buffer (driver.text ++ [0])).take (UInt32.ofNat driver.text.length).toNat = driver.text
  rw [UInt32.toNat_ofNat_of_lt' short_text, overwrite, List.append_assoc, List.take_left]

/-- A number, a size and a text say the same as another error just if they are that error. -/
theorem returned_inj {error : Int × List Byte} (short : error.2.length ≤ server.maxerrorsize)
    (cursor : CursorError)
    (same : (⟨translated.number, UInt32.ofNat translated.error.length,
        (server.store cursor translated).errorbuffer.take translated.error.length⟩ : Returned) =
      ⟨error.1, UInt32.ofNat error.2.length, error.2⟩) :
    error = (translated.number, translated.error) ∧ translated.error.length ≤ server.maxerrorsize := by
  have within := server.fits
  have size : error.2.length = translated.error.length :=
    ofNat_length_inj (by omega) translated.short (congrArg Returned.errorsize same).symm
  have fits : translated.error.length ≤ server.maxerrorsize := size ▸ short
  have text : translated.error = error.2 := by
    have taken := congrArg Returned.error same
    dsimp only at taken
    rwa [take_store fits] at taken
  constructor
  · exact Prod.ext (congrArg Returned.errorcode same).symm text.symm
  · exact fits

/-! ## Every call -/

theorem returns_iff_of_none (fails : server.translate (server.kept driver buffer) = none)
    (sqlstate : List Byte) (error : Int × List Byte) :
    server.Returns driver ⟨buffer, 0, 0, sqlstate⟩ error ↔
      error = (driver.number % 2 ^ 32, driver.text) := by
  have saved : ∀ count, server.saveError driver (server.after driver ⟨buffer, 0, 0, sqlstate⟩ count) =
      server.kept driver buffer := by
    intro count
    induction count with
    | zero => exact saveError_cleared buffer sqlstate
    | succ count ih => rw [after, getError_of_none (by rw [ih, fails]), ih, saveError_kept]
  have call : ∀ count, (server.getError driver (server.after driver ⟨buffer, 0, 0, sqlstate⟩ count)).1 =
      ⟨driver.number % 2 ^ 32, UInt32.ofNat driver.text.length, driver.text⟩ := by
    intro count
    rw [getError_of_none (by rw [saved, fails]), saved, take_kept]
    rfl
  constructor
  · intro returns
    have same := (call 0).symm.trans (returns.2 0)
    exact Prod.ext (congrArg Returned.errorcode same).symm (congrArg Returned.error same).symm
  · intro same
    rw [same]
    exact ⟨Nat.le_of_lt driver.fits, call⟩

/-- An error that leaves nothing to be kept is translated anew by each call. -/
theorem returns_iff_of_not_isKept (notKept : ¬server.IsKept driver)
    (succeeds : server.translate (server.kept driver buffer) = some translated) (sqlstate : List Byte)
    (error : Int × List Byte) :
    server.Returns driver ⟨buffer, 0, 0, sqlstate⟩ error ↔
      error = (translated.number, translated.error) ∧ translated.error.length ≤ server.maxerrorsize := by
  have number : driver.number % 2 ^ 32 = 0 := by_contra fun nonzero => notKept (Or.inl nonzero)
  have text : driver.text = [] := by_contra fun nonempty => notKept (Or.inr nonempty)
  have translates : ∀ other, server.translate (server.kept driver other) = some translated := by
    intro other
    rw [← succeeds]
    unfold translate
    cases server.translations with
    | none => rfl
    | some translations =>
        apply run_congr
        · simp [kept, text, overwrite, CString.contents]
        · simp [kept, text]
  have cleared : ∀ count, (server.after driver ⟨buffer, 0, 0, sqlstate⟩ count).errornumber = 0 ∧
      (server.after driver ⟨buffer, 0, 0, sqlstate⟩ count).errorsize = 0 := by
    intro count
    induction count with
    | zero => exact ⟨rfl, rfl⟩
    | succ count ih =>
        have saved := @saveError_of_not_isKept server driver _ ih.1 ih.2
        rw [after, getError_of_some (by rw [saved]; exact translates _), saved]
        exact ⟨number, ofNat_length_text_eq_zero.mpr text⟩
  have call : ∀ count, ∃ cursor,
      (server.getError driver (server.after driver ⟨buffer, 0, 0, sqlstate⟩ count)).1 =
        ⟨translated.number, UInt32.ofNat translated.error.length,
          (server.store cursor translated).errorbuffer.take translated.error.length⟩ := by
    intro count
    have saved := @saveError_of_not_isKept server driver _ (cleared count).1 (cleared count).2
    rw [getError_of_some (by rw [saved]; exact translates _)]
    exact ⟨_, rfl⟩
  constructor
  · intro returns
    obtain ⟨cursor, first⟩ := call 0
    exact returned_inj returns.1 cursor (first.symm.trans (returns.2 0))
  · intro same
    rw [same.1]
    constructor
    · exact same.2
    · intro count
      obtain ⟨cursor, returned⟩ := call count
      rw [returned, take_store same.2]

theorem saveError_stored (isKept : server.IsKept driver) (sqlstate : List Byte) :
    server.saveError driver { server.store (server.kept driver buffer) translated with sqlstate } =
      { server.store (server.kept driver buffer) translated with sqlstate } := by
  apply saveError_of_isKept isKept
  · rfl
  · rfl

/-- A call on what an earlier one has written returns the same just if the translations repeat themselves. -/
theorem getError_stored_iff (isKept : server.IsKept driver)
    (fits : translated.error.length ≤ server.maxerrorsize) (sqlstate : List Byte) :
    (server.getError driver { server.store (server.kept driver buffer) translated with sqlstate }).1 =
        ⟨translated.number, UInt32.ofNat translated.error.length, translated.error⟩ ↔
      server.Repeats driver translated (server.again driver buffer translated sqlstate) := by
  have saved := @saveError_stored server driver buffer translated isKept sqlstate
  have whole := take_store fits (server.kept driver buffer)
  cases made : server.again driver buffer translated sqlstate with
  | none =>
      rw [getError_of_none (by rw [saved]; exact made), saved]
      constructor
      · intro same
        constructor
        · exact (congrArg Returned.errorcode same).symm
        · exact ofNat_length_inj translated.short short_text (congrArg Returned.errorsize same).symm
      · intro repeats
        have size : (UInt32.ofNat driver.text.length).toNat = translated.error.length := by
          rw [UInt32.toNat_ofNat_of_lt' short_text, repeats.2]
        change Returned.mk (driver.number % 2 ^ 32) (UInt32.ofNat driver.text.length)
          ((server.store (server.kept driver buffer) translated).errorbuffer.take
            (UInt32.ofNat driver.text.length).toNat) = _
        rw [size, whole, repeats.1, repeats.2]
  | some more =>
      rw [getError_of_some (by rw [saved]; exact made), saved]
      constructor
      · intro same
        have again := (@returned_inj server more (translated.number, translated.error) fits _ same).1
        exact ⟨(congrArg Prod.fst again).symm, (congrArg Prod.snd again).symm⟩
      · intro repeats
        have length := congrArg List.length repeats.2
        rw [take_store (length ▸ fits), repeats.1, repeats.2]

/-- And what it leaves differs in the sqlstate only. -/
theorem getError_stored (isKept : server.IsKept driver) (count : Nat)
    (repeats : server.Repeats driver translated
      (server.again driver buffer translated (server.sqlstates driver buffer translated count))) :
    (server.getError driver { server.store (server.kept driver buffer) translated with
        sqlstate := server.sqlstates driver buffer translated count }).2 =
      { server.store (server.kept driver buffer) translated with
        sqlstate := server.sqlstates driver buffer translated (count + 1) } := by
  have saved := @saveError_stored server driver buffer translated isKept
    (server.sqlstates driver buffer translated count)
  cases made : server.again driver buffer translated (server.sqlstates driver buffer translated count) with
  | none =>
      rw [getError_of_none (by rw [saved]; exact made), saved, sqlstates, made]
  | some more =>
      rw [made] at repeats
      rw [getError_of_some (by rw [saved]; exact made), saved, sqlstates, made]
      simp only [store, repeats.2, server.safeCopy.again]

theorem returns_iff_of_isKept (isKept : server.IsKept driver)
    (succeeds : server.translate (server.kept driver buffer) = some translated) (sqlstate : List Byte)
    (error : Int × List Byte) :
    server.Returns driver ⟨buffer, 0, 0, sqlstate⟩ error ↔
      error = (translated.number, translated.error) ∧ translated.error.length ≤ server.maxerrorsize ∧
        ∀ count, server.Repeats driver translated
          (server.again driver buffer translated (server.sqlstates driver buffer translated count)) := by
  have saved := @saveError_cleared server driver buffer sqlstate
  have first : server.getError driver ⟨buffer, 0, 0, sqlstate⟩ = _ :=
    getError_of_some (by rw [saved]; exact succeeds)
  rw [saved] at first
  -- Each call that returns the same leaves what the next one needs, and the other way around.
  have after : ∀ count, (∀ earlier < count, server.Repeats driver translated
        (server.again driver buffer translated (server.sqlstates driver buffer translated earlier))) →
      server.after driver ⟨buffer, 0, 0, sqlstate⟩ (count + 1) =
        { server.store (server.kept driver buffer) translated with
          sqlstate := server.sqlstates driver buffer translated count } := by
    intro count repeats
    induction count with
    | zero => rw [after, after, first]; rfl
    | succ count ih =>
        rw [Server.after, ih (fun earlier less => repeats earlier (Nat.lt_succ_of_lt less))]
        exact getError_stored isKept count (repeats count (Nat.lt_succ_self count))
  constructor
  · intro returns
    have zero := returns.2 0
    rw [Server.after, first] at zero
    obtain ⟨same, fits⟩ := returned_inj returns.1 _ zero
    refine ⟨same, fits, ?_⟩
    intro count
    induction count using Nat.strongRecOn with
    | ind count ih =>
        have call := returns.2 (count + 1)
        rw [after count ih, same] at call
        exact (getError_stored_iff isKept fits _).mp call
  · intro stable
    obtain ⟨same, fits, repeats⟩ := stable
    rw [same]
    constructor
    · exact fits
    · intro count
      cases count with
      | zero => rw [Server.after, first, take_store fits]
      | succ count =>
          rw [after count (fun earlier _ => repeats earlier)]
          exact (getError_stored_iff isKept fits _).mpr (repeats count)

/-- The error of the driver, translated once, is what each call returns just if it is stable. -/
theorem returns_once_iff (server : Server) (driver : DriverError server) (buffer sqlstate : List Byte) :
    server.Returns driver ⟨buffer, 0, 0, sqlstate⟩ (server.once driver buffer) ↔
      server.Stable driver buffer := by
  cases made : server.translate (server.kept driver buffer) with
  | none =>
      rw [returns_iff_of_none made]
      constructor
      · intro same
        constructor
        · rw [made, same]
        · intro translated succeeds
          rw [made] at succeeds
          cases succeeds
        · intro translated succeeds
          rw [made] at succeeds
          cases succeeds
      · intro stable
        have same := stable.first
        rwa [made] at same
  | some translated =>
      by_cases isKept : server.IsKept driver
      · rw [returns_iff_of_isKept isKept made]
        constructor
        · intro returns
          constructor
          · rw [made, returns.1]
          · intro other succeeds
            rw [made] at succeeds
            cases succeeds
            exact returns.2.1
          · intro other succeeds _
            rw [made] at succeeds
            cases succeeds
            exact returns.2.2
        · intro stable
          have same := stable.first
          rw [made] at same
          exact ⟨same, stable.fits translated made, stable.repeats translated made isKept⟩
      · rw [returns_iff_of_not_isKept isKept made]
        constructor
        · intro returns
          constructor
          · rw [made, returns.1]
          · intro other succeeds
            rw [made] at succeeds
            cases succeeds
            exact returns.2
          · intro other succeeds holds
            exact absurd holds isKept
        · intro stable
          have same := stable.first
          rw [made] at same
          exact ⟨same, stable.fits translated made⟩

end Server

/-- A pattern that puts a sign before the text of each error. -/
def putBefore (sign : Byte) : Translation := fun number string _ sqlstate =>
  if short : (sign :: string).length < 2 ^ 32 then some ⟨number, sign :: string, sqlstate, short⟩ else none

/-- A text is copied with its terminator, as far as there is room. -/
def safeCopy : SafeCopy where
  copy destination destinationsize source := overwrite destination ((source ++ [0]).take destinationsize)
  whole destination destinationsize source fits := by
    have room : (source ++ [0]).take destinationsize = source ++ [0] := by
      apply List.take_of_length_le
      rw [List.length_append]
      exact fits
    rw [room, overwrite, List.append_assoc, List.take_left]
  again destination destinationsize source := overwrite_overwrite destination _

/-- The second call puts one more sign before the text. -/
theorem not_returns_once_putBefore :
    ¬∀ (server : Server) (driver : DriverError server) (buffer sqlstate : List Byte),
      server.Returns driver ⟨buffer, 0, 0, sqlstate⟩ (server.once driver buffer) := by
  intro returns
  have second := (returns ⟨safeCopy, some [putBefore 62], 7, by decide⟩ ⟨[97], 1, [], by decide⟩
    (List.replicate 8 0) []).2 1
  revert second
  decide

end SqlRelay.Errors
