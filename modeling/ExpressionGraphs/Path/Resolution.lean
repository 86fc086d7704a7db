import ExpressionGraphs.Registry.Basic

set_option autoImplicit false

/-!
# Resolving dotted paths

A dotted path is resolved one segment after the other, each on the type of the member before.
`PathCursor` stands between two segments; after a failure no segment is left, so nothing more
is asked or answered.
-/

namespace ExpressionGraphs

abbrev Resolver (m : Type → Type) (ε : Type := Empty) :=
  Ty → String → ExceptT (AccessError ε) m Member

def Registry.resolver {m : Type → Type} [Monad m] (r : Registry) : Resolver m := fun ty name =>
  ExceptT.mk (pure (r.lookup ty name))

structure Query where
  ty : Ty
  name : String
  deriving DecidableEq, Repr

namespace Resolver

variable {m : Type → Type} [Monad m] {ε : Type}

def ofTable (rows : List (Query × Member)) (otherwise : Resolver m ε) : Resolver m ε :=
  fun ty name =>
  match rows.lookup ⟨ty, name⟩ with
  | some member => pure member
  | none => otherwise ty name

def recording (resolve : Resolver m ε) : Resolver (StateT (List Query) m) ε := fun ty name =>
  ExceptT.mk do
    modify (· ++ [⟨ty, name⟩])
    (resolve ty name).run

end Resolver

/-- The parts of a list between the occurrences of a separator, of which there is one more. -/
def splitAll {α : Type} [DecidableEq α] (separator : α) : List α → List (List α)
  | [] => [[]]
  | a :: rest =>
    match splitAll separator rest with
    | [] => [[a]]
    | part :: parts => if a = separator then [] :: part :: parts else (a :: part) :: parts

theorem splitAll_ne_nil {α : Type} [DecidableEq α] (separator : α) (l : List α) :
    splitAll separator l ≠ [] := by
  cases l with
  | nil => simp [splitAll]
  | cons a rest =>
    rw [splitAll]
    split
    · simp
    · split <;> simp

theorem intercalate_splitAll {α : Type} [DecidableEq α] (separator : α) (l : List α) :
    [separator].intercalate (splitAll separator l) = l := by
  induction l with
  | nil => simp [splitAll]
  | cons a rest ih =>
    rw [splitAll]
    split
    next h => exact absurd h (splitAll_ne_nil separator rest)
    next part parts h =>
      rw [h] at ih
      split
      next same =>
        subst same
        rw [List.intercalate_cons_cons, ih]
        rfl
      next =>
        cases parts with
        | nil =>
          simp only [List.intercalate_singleton] at ih ⊢
          rw [ih]
        | cons next parts =>
          rw [List.intercalate_cons_cons] at ih ⊢
          rw [List.cons_append, List.cons_append, ih]

def segments (path : String) : List String := (splitAll '.' path.toList).map String.ofList

structure PathCursor where
  ty : Ty
  segments : List String

namespace PathCursor

def start (root : Ty) (path : String) : PathCursor := ⟨root, ExpressionGraphs.segments path⟩

variable {m : Type → Type} [Monad m] {ε : Type}

def next? (resolve : Resolver m ε) (cursor : PathCursor) :
    m (Option (Except (AccessError ε) Member × PathCursor)) := do
  match cursor.segments with
  | [] => return none
  | segment :: rest =>
    match ← (resolve cursor.ty segment).run with
    | .ok member => return some (.ok member, ⟨member.ty, rest⟩)
    | .error e => return some (.error e, ⟨cursor.ty, []⟩)

def take (resolve : Resolver m ε) :
    Nat → PathCursor → m (List (Except (AccessError ε) Member) × PathCursor)
  | 0, cursor => return ([], cursor)
  | n + 1, cursor => do
    match ← cursor.next? resolve with
    | none => return ([], cursor)
    | some (answer, cursor) =>
      let (answers, cursor) ← take resolve n cursor
      return (answer :: answers, cursor)

def toList (resolve : Resolver m ε) (cursor : PathCursor) :
    m (List (Except (AccessError ε) Member)) := do
  return (← cursor.take resolve cursor.segments.length).1

end PathCursor

/-- A path that is asked for one answer at a time, as often as anyone likes. A failure is
remembered, and the segments behind it are kept without being asked. -/
structure PathWalk where
  ty : Ty
  segments : List String
  failed : Bool

namespace PathWalk

def start (root : Ty) (path : String) : PathWalk := ⟨root, ExpressionGraphs.segments path, false⟩

variable {m : Type → Type} [Monad m] {ε : Type}

def pull (resolve : Resolver m ε) (walk : PathWalk) :
    m (Option (Except (AccessError ε) Member) × PathWalk) := do
  if walk.failed then return (none, walk)
  match walk.segments with
  | [] => return (none, walk)
  | segment :: rest =>
    match ← (resolve walk.ty segment).run with
    | .ok member => return (some (.ok member), ⟨member.ty, rest, false⟩)
    | .error e => return (some (.error e), ⟨walk.ty, rest, true⟩)

def pulls (resolve : Resolver m ε) :
    Nat → PathWalk → m (List (Option (Except (AccessError ε) Member)) × PathWalk)
  | 0, walk => return ([], walk)
  | n + 1, walk => do
    let (answer, walk) ← walk.pull resolve
    let (answers, walk) ← pulls resolve n walk
    return (answer :: answers, walk)

end PathWalk
end ExpressionGraphs
