import Metering.Proofs.Idle

/-!
# What an aborted run leaves behind

A run that is aborted leaves the table of its connection filled with what it had
selected, and the next run on the connection may be of the other kind or a dry
one. Since every run empties the table before it fills it, none of them finds
what the last one left. So `run` and `dryRun`, which start with an empty table,
say all there is to say of a run, and of any series of runs on one connection
(`performAllOn_eq`): the induction carries the books and lets the table be what
it will.
-/

namespace Metering.Retention

@[simp] theorem CandidateTable.fill_eq (selected : List EventRow) (left : CandidateTable) :
    left.fill selected = selected := rfl

theorem runOn_eq (left : CandidateTable) (p : Policy) (k : Kind) (estimator : Estimator)
    (now : Int) (b : Books) :
    (runOn left p k estimator now b).1 = (run p k estimator now b).1 ∧
      (runOn left p k estimator now b).2.1 = (run p k estimator now b).2 := by
  simp only [run, runOn, CandidateTable.fill_eq]
  cases selectMode p k estimator b with
  | error e => exact ⟨rfl, rfl⟩
  | ok mode =>
      dsimp only
      split <;> exact ⟨rfl, rfl⟩

theorem dryRunOn_eq (left : CandidateTable) (p : Policy) (k : Kind) (estimator : Estimator)
    (now : Int) (b : Books) :
    (dryRunOn left p k estimator now b).1 = dryRun p k estimator now b := by
  simp only [dryRun, dryRunOn, CandidateTable.fill_eq]
  cases selectMode p k estimator b <;> rfl

/-- A run or a dry run on the books of one of the kinds. -/
structure Errand where
  kind : Kind
  sweep : Sweep
  dry : Bool

namespace Errand

/-- The books of the kind under the guards of the errand. -/
def guarding (e : Errand) (books : PerKind Books) : Books :=
  e.sweep.guarding (books.get e.kind)

def perform (e : Errand) (books : PerKind Books) : Except Error Report × PerKind Books :=
  let b := e.guarding books
  if e.dry then
    (dryRun e.sweep.policy e.kind e.sweep.estimator e.sweep.now b, books.set e.kind b)
  else
    let (answer, b) := run e.sweep.policy e.kind e.sweep.estimator e.sweep.now b
    (answer, books.set e.kind b)

/-- An errand on a connection whose table may be filled. -/
def performOn (left : CandidateTable) (e : Errand) (books : PerKind Books) :
    Except Error Report × PerKind Books × CandidateTable :=
  let b := e.guarding books
  if e.dry then
    let (answer, table) := dryRunOn left e.sweep.policy e.kind e.sweep.estimator e.sweep.now b
    (answer, books.set e.kind b, table)
  else
    let (answer, b, table) := runOn left e.sweep.policy e.kind e.sweep.estimator e.sweep.now b
    (answer, books.set e.kind b, table)

def performAll : List Errand → PerKind Books → List (Except Error Report) × PerKind Books
  | [], books => ([], books)
  | e :: es, books =>
    let (answer, books) := e.perform books
    let (answers, books) := performAll es books
    (answer :: answers, books)

/-- Errands on one connection, each with the table that the one before it has left. -/
def performAllOn : List Errand → CandidateTable → PerKind Books →
    List (Except Error Report) × PerKind Books
  | [], _, books => ([], books)
  | e :: es, left, books =>
    let (answer, books, left) := e.performOn left books
    let (answers, books) := performAllOn es left books
    (answer :: answers, books)

theorem performOn_eq (left : CandidateTable) (e : Errand) (books : PerKind Books) :
    (e.performOn left books).1 = (e.perform books).1 ∧
      (e.performOn left books).2.1 = (e.perform books).2 := by
  unfold performOn perform
  cases e.dry with
  | true => exact ⟨dryRunOn_eq left .., rfl⟩
  | false =>
      obtain ⟨hanswer, hbooks⟩ := runOn_eq left e.sweep.policy e.kind e.sweep.estimator
        e.sweep.now (e.guarding books)
      exact ⟨hanswer, congrArg (books.set e.kind) hbooks⟩

/-- Whatever stands in the table of a connection, and whatever each errand of a series
leaves there for the next, the answers and the books are those of errands that each
start with an empty table. -/
theorem performAllOn_eq (es : List Errand) (left : CandidateTable) (books : PerKind Books) :
    performAllOn es left books = performAll es books := by
  induction es generalizing left books with
  | nil => rfl
  | cons e es ih =>
      obtain ⟨hanswer, hbooks⟩ := e.performOn_eq left books
      simp only [performAllOn, performAll, ih, hanswer, hbooks]

end Errand

end Metering.Retention
