import ExpressionGraphs.Proofs.PathRebuilding

set_option autoImplicit false

/-!
# Paths resolved on demand

What is still to come of a walk along a path is a list of exchanges, each a question to the resolver
and its answer, up to the first failure. A pull takes the first exchange and leaves the others, and
where none is left it neither asks nor answers anything. How many pulls there have been, and what
was asked in between, therefore does not matter: the walk goes through its exchanges once and in
their order.
-/

namespace ExpressionGraphs

variable {ε : Type}

abbrev Exchange (ε : Type) := Query × Except (AccessError ε) Member

/-- What is asked along segments and answered, up to the first failure. -/
def exchanges (resolve : Resolver Id ε) : Ty → List String → List (Exchange ε)
  | _, [] => []
  | ty, segment :: rest =>
    match (resolve ty segment).run.run with
    | .ok m => (⟨ty, segment⟩, .ok m) :: exchanges resolve m.ty rest
    | .error error => [(⟨ty, segment⟩, .error error)]

theorem exists_exchanged (resolve : Resolver Id ε) (ty : Ty) (path : List String) :
    ∃ members answers,
      ((Resolves resolve ty path members ∧ answers = members.map .ok) ∨
        ∃ before segment rest error, path = before ++ segment :: rest ∧
          Resolves resolve ty before members ∧
          (resolve (ty.behind members) segment).run = pure (.error error) ∧
          answers = members.map .ok ++ [.error error]) ∧
      (exchanges resolve ty path).map Prod.fst = queries ty path members ∧
      (exchanges resolve ty path).map Prod.snd = answers := by
  induction path generalizing ty with
  | nil => exact ⟨[], [], .inl ⟨.nil ty, rfl⟩, rfl, rfl⟩
  | cons segment rest ih =>
    cases answer : (resolve ty segment).run.run with
    | error error =>
      have last : exchanges resolve ty (segment :: rest) = [(⟨ty, segment⟩, .error error)] := by
        rw [exchanges, answer]
      refine ⟨[], [.error error], .inr ⟨[], segment, rest, error, rfl, .nil ty, answer, rfl⟩, ?_⟩
      rw [last]
      exact ⟨rfl, rfl⟩
    | ok m =>
      have first : exchanges resolve ty (segment :: rest) =
          (⟨ty, segment⟩, .ok m) :: exchanges resolve m.ty rest := by
        rw [exchanges, answer]
      obtain ⟨members, answers, ends, asked, answered⟩ := ih m.ty
      refine ⟨m :: members, .ok m :: answers, ?_, ?_, ?_⟩
      · rcases ends with ⟨resolves, rfl⟩ | ⟨before, stop, behind, error, rfl, resolves, fails, rfl⟩
        · exact .inl ⟨.cons answer resolves, rfl⟩
        · refine .inr ⟨segment :: before, stop, behind, error, rfl, .cons answer resolves, ?_, rfl⟩
          rw [Ty.behind_cons]
          exact fails
      · rw [first, List.map_cons, asked]
        rfl
      · rw [first, List.map_cons, answered]

theorem add_one_eq_length_of_failed (resolve : Resolver Id ε) {ty : Ty} {path : List String}
    {j : Nat} {error : AccessError ε}
    (failed : ((exchanges resolve ty path).map Prod.snd)[j]? = some (.error error)) :
    j + 1 = ((exchanges resolve ty path).map Prod.snd).length := by
  induction path generalizing ty j with
  | nil => cases failed
  | cons segment rest ih =>
    cases answer : (resolve ty segment).run.run with
    | error _ =>
      have bound := (List.getElem?_eq_some_iff.1 failed).1
      simp only [exchanges, answer, List.map_cons, List.map_nil, List.length_singleton] at bound ⊢
      omega
    | ok m =>
      simp only [exchanges, answer, List.map_cons, List.length_cons] at failed ⊢
      cases j with
      | zero => cases failed
      | succ j => exact congrArg (· + 1) (ih failed)

namespace PathWalk

def ahead (resolve : Resolver Id ε) (walk : PathWalk) : List (Exchange ε) :=
  if walk.failed then [] else exchanges resolve walk.ty walk.segments

theorem run_pull (resolve : Resolver Id ε) (walk : PathWalk) (log : List Query) :
    ∃ next, ((walk.pull (Resolver.recording resolve)).run log).run =
        (((walk.ahead resolve)[0]?.map Prod.snd, next),
          log ++ ((walk.ahead resolve).take 1).map Prod.fst) ∧
      next.ahead resolve = (walk.ahead resolve).drop 1 := by
  obtain ⟨ty, segments, failed⟩ := walk
  cases failed with
  | true =>
    refine ⟨⟨ty, segments, true⟩, ?_, rfl⟩
    simp [pull, ahead]
  | false =>
    cases segments with
    | nil =>
      refine ⟨⟨ty, [], false⟩, ?_, rfl⟩
      simp [pull, ahead, exchanges]
    | cons segment rest =>
      cases answer : (resolve ty segment).run.run with
      | ok m =>
        refine ⟨⟨m.ty, rest, false⟩, ?_, ?_⟩
        · simp [pull, ahead, exchanges, answer, Resolver.recording]
        · simp [ahead, exchanges, answer]
      | error error =>
        refine ⟨⟨ty, rest, true⟩, ?_, ?_⟩
        · simp [pull, ahead, exchanges, answer, Resolver.recording]
        · simp [ahead, exchanges, answer]

/-- So many pulls are so many of the exchanges, and nothing beyond the last of them. -/
theorem run_pulls (resolve : Resolver Id ε) (n : Nat) (walk : PathWalk) (log : List Query) :
    ∃ next, ((walk.pulls (Resolver.recording resolve) n).run log).run =
        (((List.range n).map fun j => (walk.ahead resolve)[j]?.map Prod.snd, next),
          log ++ ((walk.ahead resolve).take n).map Prod.fst) ∧
      next.ahead resolve = (walk.ahead resolve).drop n := by
  induction n generalizing walk log with
  | zero =>
    refine ⟨walk, ?_, rfl⟩
    simp [pulls]
  | succ n ih =>
    obtain ⟨middle, first, left⟩ := walk.run_pull resolve log
    obtain ⟨next, rest, behind⟩ :=
      ih middle (log ++ ((walk.ahead resolve).take 1).map Prod.fst)
    have later : ∀ j, (middle.ahead resolve)[j]? = (walk.ahead resolve)[j + 1]? := by
      intro j
      rw [left, List.getElem?_drop, Nat.add_comm]
    have asked : (walk.ahead resolve).take 1 ++ (middle.ahead resolve).take n =
        (walk.ahead resolve).take (n + 1) := by
      rw [left, ← List.take_add, Nat.add_comm]
    refine ⟨next, ?_, ?_⟩
    · have run : ((walk.pulls (Resolver.recording resolve) (n + 1)).run log).run =
          (((walk.ahead resolve)[0]?.map Prod.snd ::
              (List.range n).map fun j => (middle.ahead resolve)[j]?.map Prod.snd, next),
            (log ++ ((walk.ahead resolve).take 1).map Prod.fst) ++
              ((middle.ahead resolve).take n).map Prod.fst) := by
        rw [pulls]
        simp only [StateT.run_bind, Id.run_bind, first, rest, StateT.run_pure, Id.run_pure]
      rw [run, List.append_assoc, ← List.map_append, asked, List.range_succ_eq_map, List.map_cons,
        List.map_map]
      simp only [later, Function.comp_def, Nat.succ_eq_add_one]
    · rw [behind, left, List.drop_drop, Nat.add_comm]

end PathWalk

theorem PathCursor.run_take (resolve : Resolver Id ε) (n : Nat) (cursor : PathCursor)
    (log : List Query) :
    ∃ next, ((cursor.take (Resolver.recording resolve) n).run log).run =
      ((((exchanges resolve cursor.ty cursor.segments).take n).map Prod.snd, next),
        log ++ ((exchanges resolve cursor.ty cursor.segments).take n).map Prod.fst) := by
  induction n generalizing cursor log with
  | zero =>
    refine ⟨cursor, ?_⟩
    simp [take]
  | succ n ih =>
    obtain ⟨ty, segments⟩ := cursor
    cases segments with
    | nil =>
      refine ⟨⟨ty, []⟩, ?_⟩
      simp [take, next?, exchanges]
    | cons segment rest =>
      cases answer : (resolve ty segment).run.run with
      | ok m =>
        obtain ⟨next, run⟩ := ih ⟨m.ty, rest⟩ (log ++ [⟨ty, segment⟩])
        refine ⟨next, ?_⟩
        simp [take, next?, exchanges, answer, Resolver.recording, run]
      | error error =>
        -- no segment is left behind the failure
        obtain ⟨next, run⟩ := ih ⟨ty, []⟩ (log ++ [⟨ty, segment⟩])
        refine ⟨next, ?_⟩
        simp [take, next?, exchanges, answer, Resolver.recording, run]

/-- A path is split at each of its dots, and each segment is asked for on the type of the member
before it, up to the first that fails. So many pulls ask for so many of these segments and no more,
in their order, and give the answers; behind the last of them nothing is asked or given any more.
It does not matter in how many parts the pulls are made, nor what else is asked in between. Taking
answers for as long as there are any asks for the same and gives the same. -/
theorem pulls_exact (resolve : Resolver Id ε) (ty : Ty) (path : String) :
    (".".intercalate (segments path) = path ∧ ∀ segment ∈ segments path, IsSegment segment) ∧
    ∃ members answers calls,
      ((Resolves resolve ty (segments path) members ∧ answers = members.map .ok ∧
          calls = (segments path).length) ∨
        ∃ before segment rest error, segments path = before ++ segment :: rest ∧
          Resolves resolve ty before members ∧
          (resolve (ty.behind members) segment).run = pure (.error error) ∧
          answers = members.map .ok ++ [.error error] ∧ calls = before.length + 1) ∧
      answers.length = calls ∧ (queries ty (segments path) members).length = calls ∧
      (∀ j error, answers[j]? = some (.error error) → j + 1 = calls) ∧
      ∀ n log,
        (∃ walk, (((PathWalk.start ty path).pulls (Resolver.recording resolve) n).run log).run =
            (((List.range n).map fun j => answers[j]?, walk),
              log ++ (queries ty (segments path) members).take n) ∧
          ∀ k later, ∃ last, ((walk.pulls (Resolver.recording resolve) k).run later).run =
            (((List.range k).map fun j => answers[n + j]?, last),
              later ++ ((queries ty (segments path) members).drop n).take k)) ∧
        ∃ cursor, (((PathCursor.start ty path).take (Resolver.recording resolve) n).run log).run =
          ((answers.take n, cursor), log ++ (queries ty (segments path) members).take n) := by
  have joined := intercalate_segments path
  have split : segments (".".intercalate (segments path)) = segments path := by rw [joined]
  refine ⟨⟨joined, (segments_intercalate_iff (segments_ne_nil path)).1 split⟩, ?_⟩
  obtain ⟨members, answers, ends, asked, answered⟩ := exists_exchanged resolve ty (segments path)
  have total : (queries ty (segments path) members).length = answers.length := by
    rw [← asked, ← answered, List.length_map, List.length_map]
  refine ⟨members, answers, answers.length, ?_, rfl, total, ?_, fun n log => ⟨?_, ?_⟩⟩
  · rcases ends with ⟨resolves, rfl⟩ | ⟨before, segment, rest, error, split, resolves, fails, rfl⟩
    · refine .inl ⟨resolves, rfl, ?_⟩
      rw [List.length_map, resolves.length_eq]
    · refine .inr ⟨before, segment, rest, error, split, resolves, fails, rfl, ?_⟩
      rw [List.length_append, List.length_map, resolves.length_eq, List.length_singleton]
  · rw [← answered]
    intro j error failed
    exact add_one_eq_length_of_failed resolve failed
  · obtain ⟨walk, run, left⟩ := (PathWalk.start ty path).run_pulls resolve n log
    have ahead : (PathWalk.start ty path).ahead resolve =
        exchanges resolve ty (segments path) := rfl
    rw [ahead] at run left
    refine ⟨walk, ?_, fun k later => ?_⟩
    · rw [run, ← asked, ← answered]
      simp only [List.getElem?_map, List.map_take]
    · obtain ⟨last, run', -⟩ := walk.run_pulls resolve k later
      refine ⟨last, ?_⟩
      rw [run', left, ← asked, ← answered]
      simp only [List.getElem?_map, List.getElem?_drop, List.map_take, List.map_drop]
  · obtain ⟨cursor, run⟩ := (PathCursor.start ty path).run_take resolve n log
    have start : exchanges resolve (PathCursor.start ty path).ty
        (PathCursor.start ty path).segments = exchanges resolve ty (segments path) := rfl
    rw [start, List.map_take, List.map_take, asked, answered] at run
    exact ⟨cursor, run⟩

/-- An address has no zip. Four pulls ask for the address and for its zip, and not for the code
behind it. -/
example :
    Id.run (((PathWalk.start Sample.owner.ty "Address.Zip.Code").pulls
      (Resolver.recording (m := Id) Sample.customers.resolver) 4).run []) =
      (([some (.ok Sample.address),
          some (.error (.memberNotFound (.nullable (.named "Address")) "Zip")), none, none],
        ⟨.nullable (.named "Address"), ["Code"], true⟩),
        [⟨.named "Customer", "Address"⟩, ⟨.nullable (.named "Address"), "Zip"⟩]) := by
  rfl

end ExpressionGraphs
