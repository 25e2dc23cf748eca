import Mathlib.Data.Nat.Basic
import Mathlib.Logic.Function.Basic
import SqlRelay.Foundation.Run
import SqlRelay.Foundation.Savepoints
import SqlRelay.Query.Classify

/-!
# The savepoints trigger

The trigger takes a savepoint for a query before it is prepared, and finishes it after the query has
been executed: on an error it rolls back to it, and unless it is configured not to, it releases it.
It keeps one name for each cursor, while the transaction of the database has one stack of savepoints.
-/

namespace SqlRelay.Savepoint

open SqlRelay.Foundation SqlRelay.Query

/-- What the trigger asks about the query of a cursor. -/
structure CursorQuery where
  querysuppressed : Bool
  intransaction : Bool
  querytype : QueryType

/-- Suppressed queries, queries outside of a transaction, and transaction-control queries get no
savepoint. -/
def shouldSkip (query : CursorQuery) : Bool :=
  if query.querysuppressed then true
  else if !query.intransaction then true
  else
    match query.querytype with
    | .begin => true
    | .commit => true
    | .rollback => true
    | .autoCommitOn => true
    | .autoCommitOff => true
    | .setIncludingAutoCommitOn => true
    | .setIncludingAutoCommitOff => true
    | _ => false

/-- What changes of the trigger, and the transaction of the database.  A savepoint is called by the
value of the counter that its name was built from: the prefix before it is always the same, and no
connection lives to take the `2^64` savepoints after which the counter starts over. -/
structure System (Effect : Type) where
  spcounter : Nat
  spnames : Nat → Option Nat
  db : Transaction Nat Effect

namespace System

variable {Effect : Type}

/-- The trigger has no names when a transaction begins: `endTransaction` clears them. -/
def begun (spcounter : Nat) : System Effect := ⟨spcounter, fun _ => none, Transaction.empty⟩

def remove (system : System Effect) (cursor : Nat) : System Effect :=
  { system with spnames := Function.update system.spnames cursor none }

/-- The database may refuse the savepoint, which is logged only. -/
def createSavepoint (system : System Effect) (cursor : Nat) (created : Bool) : System Effect :=
  if created then
    { spcounter := system.spcounter + 1
      spnames := Function.update system.spnames cursor (some system.spcounter)
      db := system.db.savepoint system.spcounter }
  else
    { system with spcounter := system.spcounter + 1 }

/-- The queries that `finishSavepoint` runs. -/
def finishQueries (dorelease error : Bool) (name : Nat) (db : Transaction Nat Effect) :
    Transaction Nat Effect :=
  if error then
    if dorelease then (db.rollbackTo name).release name else db.rollbackTo name
  else if dorelease then db.release name
  else db

def finishSavepoint (dorelease : Bool) (system : System Effect) (cursor : Nat) (error : Bool) :
    System Effect :=
  match system.spnames cursor with
  | none => system
  | some name =>
      { system.remove cursor with db := finishQueries dorelease error name system.db }

def runBeforePrepare (system : System Effect) (cursor : Nat) (query : CursorQuery)
    (created : Bool) : System Effect :=
  if shouldSkip query then system.remove cursor
  else (system.remove cursor).createSavepoint cursor created

/-- After a prepare that did not fail the savepoint stays, to bracket the execute. -/
def runAfterPrepare (dorelease : Bool) (system : System Effect) (cursor : Nat) (error : Bool) :
    System Effect :=
  if error then system.finishSavepoint dorelease cursor true else system

/-- The savepoint that was taken before the prepare is used again. -/
def runBeforeExecute (system : System Effect) (cursor : Nat) (query : CursorQuery)
    (created : Bool) : System Effect :=
  match system.spnames cursor with
  | some _ => system
  | none => if shouldSkip query then system else system.createSavepoint cursor created

def runAfterExecute (dorelease : Bool) (system : System Effect) (cursor : Nat) (error : Bool) :
    System Effect :=
  system.finishSavepoint dorelease cursor error

end System

/-- A cursor prepares or executes its query.  The database decides whether it grants a savepoint,
where it is asked for one, and whether the query fails; also a query that fails may have had
effects. -/
inductive Event (Effect : Type) where
  | prepare (cursor : Nat) (query : CursorQuery) (created error : Bool)
  | execute (cursor : Nat) (query : CursorQuery) (created : Bool) (effects : List Effect)
      (error : Bool)

namespace System

variable {Effect : Type}

/-- What the database has done for a query. -/
def run (system : System Effect) (effects : List Effect) : System Effect :=
  { system with db := system.db.run effects }

/-- A prepare has no effects. -/
def step (dorelease : Bool) (system : System Effect) : Event Effect → System Effect
  | .prepare cursor query created error =>
      (system.runBeforePrepare cursor query created).runAfterPrepare dorelease cursor error
  | .execute cursor query created effects error =>
      ((system.runBeforeExecute cursor query created).run effects).runAfterExecute dorelease cursor
        error

end System

end SqlRelay.Savepoint

/-!
## Which statements a failing query undoes

Names rise, so a savepoint is later than another one if its name is greater.  A query that is
executed with the savepoint of its prepare finishes it together with all later ones, and a failing
one undoes everything since.
-/

namespace SqlRelay.Savepoint

open SqlRelay.Foundation

namespace Event

variable {Effect : Type}

def error : Event Effect → Bool
  | .prepare _ _ _ error => error
  | .execute _ _ _ _ error => error

end Event

namespace System

variable {Effect : Type}

/-- The trigger takes a savepoint for the query, or a prepare has left it one. -/
def bracketed (system : System Effect) : Event Effect → Bool
  | .prepare _ query created _ => !shouldSkip query && created
  | .execute cursor query created _ _ =>
      (system.spnames cursor).isSome || (!shouldSkip query && created)

/-- After the step every name of the trigger is the name of a savepoint, nothing that was done
before has been undone, and a failing query with a savepoint has had no effect. -/
structure Isolated (dorelease : Bool) (system : System Effect) (event : Event Effect) : Prop where
  named : ∀ cursor name, (system.step dorelease event).spnames cursor = some name →
    (system.step dorelease event).db.Exists name
  kept : system.db.work <+: (system.step dorelease event).db.work
  undone : event.error = true → system.bracketed event = true →
    (system.step dorelease event).db.work = system.db.work

/-- What has to be so before a query is executed with the savepoint of its prepare: where the
savepoint is going to be destroyed, no other cursor has a later one, and where the query fails,
nothing has been done since. -/
def InTurn (dorelease : Bool) (system : System Effect) : Event Effect → Prop
  | .prepare _ _ _ _ => True
  | .execute cursor _ _ _ error =>
      ∀ name, system.spnames cursor = some name →
        ((error || dorelease) = true →
          ∀ other later, system.spnames other = some later → later ≤ name) ∧
        (error = true → (name, system.db.work.length) ∈ system.db.savepoints)

/-- Every savepoint was named by the counter, every name of the trigger is the name of a savepoint,
and no two cursors have the same. -/
structure Sound (system : System Effect) : Prop where
  ordered : system.db.Ordered
  counted : ∀ name, system.db.Exists name → name < system.spcounter
  named : ∀ cursor name, system.spnames cursor = some name → system.db.Exists name
  apart : ∀ first second name, system.spnames first = some name →
    system.spnames second = some name → first = second

theorem sound_begun (spcounter : Nat) : (begun spcounter : System Effect).Sound where
  ordered := Transaction.Ordered.empty
  counted _ found := by
    obtain ⟨position, listed⟩ := found
    exact absurd listed List.not_mem_nil
  named cursor name found := by cases found
  apart first second name found := by cases found

/-! ## Names -/

@[simp] theorem spnames_remove_self (system : System Effect) (cursor : Nat) :
    (system.remove cursor).spnames cursor = none := Function.update_self ..

theorem spnames_remove {system : System Effect} {cursor other name : Nat} :
    (system.remove cursor).spnames other = some name ↔
      other ≠ cursor ∧ system.spnames other = some name := by
  simp only [remove, Function.update_apply]
  split <;> simp_all

@[simp] theorem db_remove (system : System Effect) (cursor : Nat) :
    (system.remove cursor).db = system.db := rfl

theorem Sound.remove {system : System Effect} (sound : system.Sound) (cursor : Nat) :
    (system.remove cursor).Sound where
  ordered := sound.ordered
  counted := sound.counted
  named other name found := sound.named other name (spnames_remove.mp found).2
  apart first second name found also :=
    sound.apart first second name (spnames_remove.mp found).2 (spnames_remove.mp also).2

theorem run_nil (system : System Effect) : system.run [] = system := by
  simp [System.run, Transaction.run]

theorem Sound.run {system : System Effect} (sound : system.Sound) (effects : List Effect) :
    (system.run effects).Sound where
  ordered := sound.ordered.run effects
  counted := sound.counted
  named := sound.named
  apart := sound.apart

/-! ## Taking a savepoint -/

theorem exists_savepoint {db : Transaction Nat Effect} {name other : Nat} :
    (db.savepoint name).Exists other ↔ other = name ∨ db.Exists other := by
  simp [Transaction.Exists, Transaction.savepoint, exists_or]

theorem spnames_created {system : System Effect} {cursor other name : Nat} :
    (system.createSavepoint cursor true).spnames other = some name ↔
      (other = cursor ∧ name = system.spcounter) ∨
        (other ≠ cursor ∧ system.spnames other = some name) := by
  simp only [createSavepoint, if_true, Function.update_apply]
  split <;> simp_all [eq_comm]

theorem spnames_created_self (system : System Effect) (cursor : Nat) :
    (system.createSavepoint cursor true).spnames cursor = some system.spcounter :=
  spnames_created.mpr (Or.inl ⟨rfl, rfl⟩)

theorem Sound.createSavepoint {system : System Effect} (sound : system.Sound) (cursor : Nat)
    (created : Bool) : (system.createSavepoint cursor created).Sound := by
  cases created with
  | false =>
      constructor
      · exact sound.ordered
      · intro name found
        exact Nat.lt_succ_of_lt (sound.counted name found)
      · exact sound.named
      · exact sound.apart
  | true =>
      have fresh : ∀ other, system.spnames other ≠ some system.spcounter := by
        intro other found
        exact Nat.lt_irrefl _ (sound.counted _ (sound.named other _ found))
      constructor
      · exact sound.ordered.savepoint sound.counted
      · intro name found
        cases exists_savepoint.mp found with
        | inl same => exact same ▸ Nat.lt_succ_self _
        | inr older => exact Nat.lt_succ_of_lt (sound.counted name older)
      · intro other name found
        cases spnames_created.mp found with
        | inl mine => exact exists_savepoint.mpr (Or.inl mine.2)
        | inr others => exact exists_savepoint.mpr (Or.inr (sound.named other name others.2))
      · intro first second name found also
        cases spnames_created.mp found with
        | inl mine =>
            cases spnames_created.mp also with
            | inl same => exact mine.1.trans same.1.symm
            | inr others => exact absurd (mine.2 ▸ others.2) (fresh second)
        | inr others =>
            cases spnames_created.mp also with
            | inl mine => exact absurd (mine.2 ▸ others.2) (fresh first)
            | inr same => exact sound.apart first second name others.2 same.2

/-! ## Finishing a savepoint -/

/-- Finishing a savepoint leaves the ones before it, and it leaves itself only if it is not
released. -/
theorem exists_finishQueries {db : Transaction Nat Effect} (ordered : db.Ordered) {name : Nat}
    (live : db.Exists name) (dorelease error : Bool) {other : Nat} (distinct : other ≠ name) :
    (finishQueries dorelease error name db).Exists other ↔
      db.Exists other ∧ ((error || dorelease) = true → other < name) := by
  have still : (db.rollbackTo name).Exists name :=
    (ordered.exists_rollbackTo live name).mpr ⟨live, Nat.le_refl _⟩
  have strictly : other ≤ name ↔ other < name := by omega
  cases error with
  | true =>
      have rolledBack := ordered.exists_rollbackTo live other
      cases dorelease with
      | true =>
          have released := (ordered.rollbackTo live).exists_release still other
          simp [finishQueries, released, rolledBack, strictly]
      | false => simp [finishQueries, rolledBack, strictly]
  | false =>
      cases dorelease with
      | true => simp [finishQueries, ordered.exists_release live other]
      | false => simp [finishQueries]

theorem exists_of_finishQueries {db : Transaction Nat Effect} (ordered : db.Ordered) {name : Nat}
    (live : db.Exists name) (dorelease error : Bool) {other : Nat}
    (found : (finishQueries dorelease error name db).Exists other) : db.Exists other := by
  by_cases same : other = name
  · exact same ▸ live
  · exact ((exists_finishQueries ordered live dorelease error same).mp found).1

theorem ordered_finishQueries {db : Transaction Nat Effect} (ordered : db.Ordered) {name : Nat}
    (live : db.Exists name) (dorelease error : Bool) :
    (finishQueries dorelease error name db).Ordered := by
  have still : (db.rollbackTo name).Exists name :=
    (ordered.exists_rollbackTo live name).mpr ⟨live, Nat.le_refl _⟩
  cases error with
  | true =>
      cases dorelease with
      | true => exact (ordered.rollbackTo live).release still
      | false => exact ordered.rollbackTo live
  | false =>
      cases dorelease with
      | true => exact ordered.release live
      | false => exact ordered

theorem work_finishQueries {db : Transaction Nat Effect} (ordered : db.Ordered)
    {name position : Nat} (inside : (name, position) ∈ db.savepoints) (dorelease error : Bool) :
    (finishQueries dorelease error name db).work =
      if error = true then db.work.take position else db.work := by
  have still : (db.rollbackTo name).Exists name :=
    (ordered.exists_rollbackTo ⟨position, inside⟩ name).mpr ⟨⟨position, inside⟩, Nat.le_refl _⟩
  have rolledBack : (db.rollbackTo name).work = db.work.take position := by
    rw [ordered.rollbackTo_eq inside]
  cases error with
  | true =>
      cases dorelease with
      | true =>
          have released : ((db.rollbackTo name).release name).work = (db.rollbackTo name).work := by
            rw [(ordered.rollbackTo ⟨position, inside⟩).release_eq still]
          exact released.trans rolledBack
      | false => exact rolledBack
  | false =>
      cases dorelease with
      | true =>
          have released := ordered.release_eq ⟨position, inside⟩
          simp [finishQueries, released]
      | false => rfl

/-- No other cursor has a savepoint that finishing this one destroys. -/
def Last (system : System Effect) (dorelease error : Bool) (name : Nat) : Prop :=
  (error || dorelease) = true → ∀ other later, system.spnames other = some later → later ≤ name

theorem finishSavepoint_eq {system : System Effect} {cursor name : Nat}
    (mapped : system.spnames cursor = some name) (dorelease error : Bool) :
    system.finishSavepoint dorelease cursor error =
      { system.remove cursor with db := finishQueries dorelease error name system.db } := by
  rw [finishSavepoint, mapped]

/-- The names that are left stand for savepoints exactly if there was no later one. -/
theorem named_finished_iff {system : System Effect} (sound : system.Sound) {cursor name : Nat}
    (mapped : system.spnames cursor = some name) (dorelease error : Bool) :
    (∀ other left, (system.finishSavepoint dorelease cursor error).spnames other = some left →
      (system.finishSavepoint dorelease cursor error).db.Exists left) ↔
      system.Last dorelease error name := by
  have live := sound.named cursor name mapped
  have distinct : ∀ {other left}, other ≠ cursor → system.spnames other = some left →
      left ≠ name := by
    intro other left others found same
    exact others (sound.apart other cursor name (same ▸ found) mapped)
  simp only [finishSavepoint_eq mapped]
  constructor
  · intro named destroyed other later found
    by_cases same : other = cursor
    · subst same
      exact Nat.le_of_eq (Option.some.inj (found.symm.trans mapped))
    · have left := named other later (spnames_remove.mpr ⟨same, found⟩)
      have below := exists_finishQueries sound.ordered live dorelease error (distinct same found)
      exact Nat.le_of_lt ((below.mp left).2 destroyed)
  · intro last other left found
    obtain ⟨others, found⟩ := spnames_remove.mp found
    have apart := distinct others found
    apply (exists_finishQueries sound.ordered live dorelease error apart).mpr
    constructor
    · exact sound.named other left found
    · intro destroyed
      exact Nat.lt_of_le_of_ne (last destroyed other left found) apart

theorem Sound.finishSavepoint {system : System Effect} (sound : system.Sound) {cursor name : Nat}
    (mapped : system.spnames cursor = some name) {dorelease error : Bool}
    (last : system.Last dorelease error name) :
    (system.finishSavepoint dorelease cursor error).Sound := by
  have live := sound.named cursor name mapped
  have named := (named_finished_iff sound mapped dorelease error).mpr last
  rw [finishSavepoint_eq mapped] at named ⊢
  constructor
  · exact ordered_finishQueries sound.ordered live dorelease error
  · intro other found
    exact sound.counted other (exists_of_finishQueries sound.ordered live dorelease error found)
  · exact named
  · exact (sound.remove cursor).apart

/-- A query between its savepoint and the end of it: it is isolated exactly if it destroys no
savepoint of another cursor, and undoes nothing that was done before. -/
theorem bracket_iff {ready : System Effect} (sound : ready.Sound) {cursor name position : Nat}
    (mapped : ready.spnames cursor = some name) (inside : (name, position) ∈ ready.db.savepoints)
    (dorelease error : Bool) (effects : List Effect) (after : System Effect)
    (isAfter : after = (ready.run effects).finishSavepoint dorelease cursor error) :
    ((∀ other left, after.spnames other = some left → after.db.Exists left) ∧
        ready.db.work <+: after.db.work ∧ (error = true → after.db.work = ready.db.work)) ↔
      ready.Last dorelease error name ∧ (error = true → position = ready.db.work.length) := by
  have executed := sound.run effects
  have work : after.db.work =
      if error = true then (ready.db.work ++ effects).take position
      else ready.db.work ++ effects := by
    have still : (ready.run effects).spnames cursor = some name := mapped
    rw [isAfter, finishSavepoint_eq still]
    exact work_finishQueries executed.ordered inside dorelease error
  have bounded := sound.ordered.bounded name position inside
  rw [isAfter, named_finished_iff executed mapped dorelease error, ← isAfter, work]
  apply and_congr Iff.rfl
  cases error with
  | false => simp
  | true =>
      simp only [if_true, forall_const]
      constructor
      · intro undone
        have length := congrArg List.length undone.2
        simp only [List.length_take, List.length_append] at length
        omega
      · intro same
        rw [same, List.take_left]
        exact ⟨List.prefix_rfl, rfl⟩

/-! ## Steps -/

theorem finishSavepoint_unmapped {system : System Effect} {cursor : Nat}
    (unmapped : system.spnames cursor = none) (dorelease error : Bool) :
    system.finishSavepoint dorelease cursor error = system := by
  rw [finishSavepoint, unmapped]

theorem Sound.last_created {system : System Effect} (sound : system.Sound) (cursor : Nat)
    (dorelease error : Bool) :
    (system.createSavepoint cursor true).Last dorelease error system.spcounter := by
  intro _ other later found
  have created := sound.createSavepoint cursor true
  exact Nat.le_of_lt_succ (created.counted later (created.named other later found))

/-- A step that has taken no savepoint of its own, and finishes none. -/
theorem isolated_of_unbracketed {dorelease : Bool} {system after : System Effect}
    {event : Event Effect} (isAfter : system.step dorelease event = after) (sound : after.Sound)
    (kept : system.db.work <+: after.db.work) (unbracketed : system.bracketed event = false) :
    Isolated dorelease system event where
  named := isAfter ▸ sound.named
  kept := isAfter ▸ kept
  undone _ bracketed := by
    rw [unbracketed] at bracketed
    cases bracketed

theorem isolated_iff_bracket {dorelease : Bool} {system after : System Effect}
    {event : Event Effect} (isAfter : system.step dorelease event = after)
    (bracketed : system.bracketed event = true) :
    Isolated dorelease system event ↔
      (∀ other left, after.spnames other = some left → after.db.Exists left) ∧
        system.db.work <+: after.db.work ∧
          (event.error = true → after.db.work = system.db.work) := by
  subst isAfter
  constructor
  · intro isolated
    exact ⟨isolated.named, isolated.kept, fun failed => isolated.undone failed bracketed⟩
  · intro shown
    exact ⟨shown.1, shown.2.1, fun failed _ => shown.2.2 failed⟩

/-- A prepare is isolated, and it leaves the invariant as it is. -/
theorem Sound.prepare {system : System Effect} (sound : system.Sound) (dorelease : Bool)
    (cursor : Nat) (query : CursorQuery) (created error : Bool) :
    Isolated dorelease system (.prepare cursor query created error) ∧
      (system.step dorelease (.prepare cursor query created error)).Sound := by
  have cleared := sound.remove cursor
  have unmapped := spnames_remove_self system cursor
  cases skipped : shouldSkip query with
  | true =>
      have isAfter : system.step dorelease (.prepare cursor query created error) =
          system.remove cursor := by
        simp [step, runBeforePrepare, runAfterPrepare, skipped, finishSavepoint_unmapped unmapped]
      have unbracketed : system.bracketed (.prepare cursor query created error) = false := by
        simp [bracketed, skipped]
      exact ⟨isolated_of_unbracketed isAfter cleared List.prefix_rfl unbracketed,
        isAfter ▸ cleared⟩
  | false =>
      have ready := cleared.createSavepoint cursor created
      cases created with
      | false =>
          have still : ((system.remove cursor).createSavepoint cursor false).spnames cursor = none :=
            unmapped
          have isAfter : system.step dorelease (.prepare cursor query false error) =
              (system.remove cursor).createSavepoint cursor false := by
            simp [step, runBeforePrepare, runAfterPrepare, skipped, finishSavepoint_unmapped still]
          have unbracketed : system.bracketed (.prepare cursor query false error) = false := by
            simp [bracketed]
          exact ⟨isolated_of_unbracketed isAfter ready List.prefix_rfl unbracketed,
            isAfter ▸ ready⟩
      | true =>
          have bracketed : system.bracketed (.prepare cursor query true error) = true := by
            simp [bracketed, skipped]
          cases error with
          | false =>
              have isAfter : system.step dorelease (.prepare cursor query true false) =
                  (system.remove cursor).createSavepoint cursor true := by
                simp [step, runBeforePrepare, runAfterPrepare, skipped]
              constructor
              · apply (isolated_iff_bracket isAfter bracketed).mpr
                exact ⟨ready.named, List.prefix_rfl, fun failed => absurd failed Bool.false_ne_true⟩
              · exact isAfter ▸ ready
          | true =>
              have isAfter : system.step dorelease (.prepare cursor query true true) =
                  ((system.remove cursor).createSavepoint cursor true).finishSavepoint dorelease
                    cursor true := by
                simp [step, runBeforePrepare, runAfterPrepare, skipped]
              have mapped := spnames_created_self (system.remove cursor) cursor
              have last := cleared.last_created cursor dorelease true
              constructor
              · apply (isolated_iff_bracket isAfter bracketed).mpr
                apply (bracket_iff ready mapped (List.mem_cons_self ..) dorelease true [] _
                  (by rw [run_nil])).mpr
                exact ⟨last, fun _ => rfl⟩
              · rw [isAfter]
                exact ready.finishSavepoint mapped last

theorem runBeforeExecute_mapped {system : System Effect} {cursor name : Nat}
    (mapped : system.spnames cursor = some name) (query : CursorQuery) (created : Bool) :
    system.runBeforeExecute cursor query created = system := by
  rw [runBeforeExecute, mapped]

theorem runBeforeExecute_unmapped {system : System Effect} {cursor : Nat}
    (unmapped : system.spnames cursor = none) (query : CursorQuery) (created : Bool) :
    system.runBeforeExecute cursor query created =
      if shouldSkip query then system else system.createSavepoint cursor created := by
  rw [runBeforeExecute, unmapped]

/-- An execute that takes a savepoint of its own, or none, is isolated. -/
theorem Sound.execute_unmapped {system : System Effect} (sound : system.Sound) {cursor : Nat}
    (unmapped : system.spnames cursor = none) (dorelease : Bool) (query : CursorQuery)
    (created : Bool) (effects : List Effect) (error : Bool) :
    Isolated dorelease system (.execute cursor query created effects error) ∧
      (system.step dorelease (.execute cursor query created effects error)).Sound := by
  have grown : system.db.work <+: (system.run effects).db.work := List.prefix_append ..
  cases skipped : shouldSkip query with
  | true =>
      have isAfter : system.step dorelease (.execute cursor query created effects error) =
          system.run effects := by
        have still : (system.run effects).spnames cursor = none := unmapped
        simp [step, runBeforeExecute_unmapped unmapped, skipped, runAfterExecute,
          finishSavepoint_unmapped still]
      have unbracketed :
          system.bracketed (.execute cursor query created effects error) = false := by
        simp [bracketed, skipped, unmapped]
      exact ⟨isolated_of_unbracketed isAfter (sound.run effects) grown unbracketed,
        isAfter ▸ sound.run effects⟩
  | false =>
      have ready := sound.createSavepoint cursor created
      have isAfter : system.step dorelease (.execute cursor query created effects error) =
          ((system.createSavepoint cursor created).run effects).finishSavepoint dorelease cursor
            error := by
        simp [step, runBeforeExecute_unmapped unmapped, skipped, runAfterExecute]
      cases created with
      | false =>
          have still : ((system.createSavepoint cursor false).run effects).spnames cursor = none :=
            unmapped
          rw [finishSavepoint_unmapped still] at isAfter
          have unbracketed :
              system.bracketed (.execute cursor query false effects error) = false := by
            simp [bracketed, unmapped]
          exact ⟨isolated_of_unbracketed isAfter (ready.run effects) grown unbracketed,
            isAfter ▸ ready.run effects⟩
      | true =>
          have bracketed : system.bracketed (.execute cursor query true effects error) = true := by
            simp [bracketed, skipped]
          have mapped := spnames_created_self system cursor
          have last := sound.last_created cursor dorelease error
          constructor
          · apply (isolated_iff_bracket isAfter bracketed).mpr
            apply (bracket_iff ready mapped (List.mem_cons_self ..) dorelease error effects _
              rfl).mpr
            exact ⟨last, fun _ => rfl⟩
          · rw [isAfter]
            exact (ready.run effects).finishSavepoint mapped last

theorem step_execute_mapped {system : System Effect} {cursor name : Nat}
    (mapped : system.spnames cursor = some name) (dorelease : Bool) (query : CursorQuery)
    (created : Bool) (effects : List Effect) (error : Bool) :
    system.step dorelease (.execute cursor query created effects error) =
      (system.run effects).finishSavepoint dorelease cursor error := by
  simp only [step, runBeforeExecute_mapped mapped, runAfterExecute]

/-- An execute with the savepoint of its prepare is isolated exactly if it is its turn. -/
theorem Sound.execute_mapped_iff {system : System Effect} (sound : system.Sound)
    {cursor name : Nat} (mapped : system.spnames cursor = some name) (dorelease : Bool)
    (query : CursorQuery) (created : Bool) (effects : List Effect) (error : Bool) :
    Isolated dorelease system (.execute cursor query created effects error) ↔
      system.InTurn dorelease (.execute cursor query created effects error) := by
  have bracketed : system.bracketed (.execute cursor query created effects error) = true := by
    simp [bracketed, mapped]
  have isAfter := step_execute_mapped mapped dorelease query created effects error
  obtain ⟨position, inside⟩ := sound.named cursor name mapped
  have here : position = system.db.work.length ↔
      (name, system.db.work.length) ∈ system.db.savepoints := by
    constructor
    · intro same
      exact same ▸ inside
    · intro also
      exact sound.ordered.position_unique inside also
  rw [isolated_iff_bracket isAfter bracketed]
  apply (bracket_iff sound mapped inside dorelease error effects _ rfl).trans
  rw [here]
  constructor
  · intro met other found
    cases Option.some.inj (mapped.symm.trans found)
    exact met
  · intro turn
    exact turn name mapped

theorem Sound.isolated_iff {system : System Effect} (sound : system.Sound) (dorelease : Bool)
    (event : Event Effect) :
    Isolated dorelease system event ↔ system.InTurn dorelease event := by
  cases event with
  | prepare cursor query created error =>
      exact iff_of_true (sound.prepare dorelease cursor query created error).1 trivial
  | execute cursor query created effects error =>
      cases mapped : system.spnames cursor with
      | none =>
          have isolated := sound.execute_unmapped mapped dorelease query created effects error
          apply iff_of_true isolated.1
          intro name found
          cases mapped.symm.trans found
      | some name => exact sound.execute_mapped_iff mapped dorelease query created effects error

theorem Sound.step {system : System Effect} (sound : system.Sound) {dorelease : Bool}
    {event : Event Effect} (turn : system.InTurn dorelease event) :
    (system.step dorelease event).Sound := by
  cases event with
  | prepare cursor query created error =>
      exact (sound.prepare dorelease cursor query created error).2
  | execute cursor query created effects error =>
      cases mapped : system.spnames cursor with
      | none => exact (sound.execute_unmapped mapped dorelease query created effects error).2
      | some name =>
          rw [step_execute_mapped mapped]
          exact (sound.run effects).finishSavepoint mapped (turn name mapped).1

/-- In a transaction every step is isolated exactly if every query that is executed with the
savepoint of its prepare is executed in its turn. -/
theorem isolated_along_iff (dorelease : Bool) (spcounter : Nat) (events : List (Event Effect)) :
    Along (step dorelease) (Isolated dorelease) (begun spcounter) events ↔
      Along (step dorelease) (InTurn dorelease) (begun spcounter) events := by
  apply Along.iff_guard _ _ (sound_begun spcounter)
  · intro system event sound turn
    exact sound.step turn
  · intro system event sound
    exact sound.isolated_iff dorelease event

/-- An insert. -/
def insertion : CursorQuery := ⟨false, true, .insert⟩

/-- Two cursors prepare, the second one executes, and then the first one fails. -/
def overlap : List (Event Nat) :=
  [.prepare 0 insertion true false, .prepare 1 insertion true false,
    .execute 1 insertion true [7] false, .execute 0 insertion true [] true]

/-- The statement of the second cursor has succeeded, and it is undone. -/
theorem overlap_undoes :
    ¬∀ dorelease spcounter (events : List (Event Nat)),
      Along (step dorelease) (Isolated dorelease) (begun spcounter) events := by
  intro isolated
  have last := (isolated true 0 overlap).2.2.2.1.kept
  exact absurd last (by decide)

end System

end SqlRelay.Savepoint
