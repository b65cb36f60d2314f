import TypedRoutes.Fault.Basic

/-!
# How operations end

Faults are what those who ask are told of; any other failure breaks an operation off. For some
operations it can be said for what reason they break off: for that reason they do, and without it
they have a result or fail as expected. What is said of two operations holds of both in sequence,
and what is said of a step holds of a run.
-/
namespace TypedRoutes

def Failure.isFault : Failure → Bool
  | fault _ => true
  | _ => false

variable {α β σ : Type} {expected : Failure → Prop} {reason other : Prop}
variable {result : Except Failure α} {next : α → Except Failure β}

/-- Whether an operation breaks off by something that is no fault, if there is a reason for it, and
has a result or fails as expected otherwise. -/
inductive Ends (expected : Failure → Prop) (reason : Prop) : Except Failure α → Prop
  | ok {x : α} (h : ¬reason) : Ends expected reason (.ok x)
  | refused {failure : Failure} (h : ¬reason) (hfailure : expected failure) :
    Ends expected reason (.error failure)
  | broken {failure : Failure} (h : reason) (hfailure : failure.isFault = false) :
    Ends expected reason (.error failure)

/-- Whether an operation has a result unless there is a reason to break off. -/
abbrev Completes (reason : Prop) (result : Except Failure α) : Prop :=
  Ends (fun _ => False) reason result

theorem Ends.congr (h : Ends expected reason result) (hiff : reason ↔ other) :
    Ends expected other result :=
  propext hiff ▸ h

theorem Ends.not_of_ok {x : α} (h : Ends expected reason (.ok x)) : ¬reason := by
  cases h with
  | ok hno => exact hno

theorem Completes.ends (h : Completes reason result) : Ends expected reason result := by
  cases h with
  | ok hno => exact .ok hno
  | refused _ hfailure => exact hfailure.elim
  | broken hreason hfailure => exact .broken hreason hfailure

theorem Ends.map {f : α → β} (h : Ends expected reason result) :
    Ends expected reason (result.map f) := by
  cases h with
  | ok hno => exact .ok hno
  | refused hno hfailure => exact .refused hno hfailure
  | broken hreason hfailure => exact .broken hreason hfailure

theorem Ends.exists_error (h : Ends expected reason result) (hreason : reason) :
    ∃ failure, failure.isFault = false ∧ result = .error failure := by
  cases h with
  | ok hno => exact absurd hreason hno
  | refused hno => exact absurd hreason hno
  | broken _ hfailure => exact ⟨_, hfailure, rfl⟩

theorem Ends.exists_ok_or_error (h : Ends expected reason result) (hno : ¬reason) :
    (∃ x, result = .ok x) ∨ ∃ failure, expected failure ∧ result = .error failure := by
  cases h with
  | ok => exact .inl ⟨_, rfl⟩
  | refused _ hfailure => exact .inr ⟨_, hfailure, rfl⟩
  | broken hreason => exact absurd hreason hno

/-! ## Sequences -/

theorem Ends.bind {more : α → Prop} (h : Ends expected reason result)
    (hnext : ∀ x, result = .ok x → Ends expected (more x) (next x)) :
    Ends expected (reason ∨ ∃ x, result = .ok x ∧ more x) (result >>= next) := by
  cases h with
  | @ok x hno =>
    refine (hnext x rfl).congr ⟨fun hmore => .inr ⟨x, rfl, hmore⟩, ?_⟩
    rintro (hreason | ⟨y, hy, hmore⟩)
    · exact absurd hreason hno
    · cases hy
      exact hmore
  | refused hno hfailure =>
    refine .refused ?_ hfailure
    rintro (hreason | ⟨y, hy, -⟩)
    · exact hno hreason
    · cases hy
  | broken hreason hfailure => exact .broken (.inl hreason) hfailure

/-- Two reasons that do not depend on each other. -/
theorem Completes.bind_or (h : Completes reason result)
    (hnext : ∀ x, result = .ok x → Ends expected other (next x)) :
    Ends expected (reason ∨ other) (result >>= next) := by
  cases h with
  | ok hno => exact (hnext _ rfl).congr (or_iff_right hno).symm
  | refused _ hfailure => exact hfailure.elim
  | broken hreason hfailure => exact .broken (.inl hreason) hfailure

/-! ## Runs -/

/-- A run breaks off at the first step that has a reason to, as far as it gets there. -/
theorem ends_foldlM {step : σ → α → Except Failure σ} {Blocks : σ → α → Prop} {xs : List α}
    (h : ∀ x ∈ xs, ∀ state, Ends expected (Blocks state x) (step state x)) (state : σ) :
    Ends expected (∃ before x after reached, xs = before ++ x :: after ∧
      before.foldlM step state = .ok reached ∧ Blocks reached x) (xs.foldlM step state) := by
  induction xs generalizing state with
  | nil =>
    refine .ok ?_
    rintro ⟨before, x, after, -, hxs, -⟩
    cases before <;> cases hxs
  | cons x xs ih =>
    obtain ⟨hx, hxs⟩ := List.forall_mem_cons.mp h
    rw [List.foldlM_cons]
    refine ((hx state).bind fun next _ => ih hxs next).congr ?_
    constructor
    · rintro (hblocks | ⟨next, hnext, before, y, after, reached, rfl, hreached, hblocks⟩)
      · exact ⟨[], x, xs, state, rfl, rfl, hblocks⟩
      · refine ⟨x :: before, y, after, reached, rfl, ?_, hblocks⟩
        rw [List.foldlM_cons, hnext]
        exact hreached
    · rintro ⟨_ | ⟨y, before⟩, z, after, reached, hxs, hreached, hblocks⟩
      · cases hxs
        cases hreached
        exact .inl hblocks
      · cases hxs
        rw [List.foldlM_cons] at hreached
        cases hnext : step state x with
        | error failure =>
          rw [hnext] at hreached
          cases hreached
        | ok next =>
          rw [hnext] at hreached
          exact .inr ⟨next, rfl, before, z, after, reached, rfl, hreached, hblocks⟩

/-- A run whose steps do not depend on what was reached breaks off if one of them does. -/
theorem completes_foldlM {step : σ → α → Except Failure σ} {Blocks : α → Prop}
    (h : ∀ state x, Completes (Blocks x) (step state x)) (xs : List α) (state : σ) :
    Completes (∃ x ∈ xs, Blocks x) (xs.foldlM step state) := by
  induction xs generalizing state with
  | nil => exact .ok (by simp)
  | cons x xs ih =>
    rw [List.foldlM_cons]
    exact ((h state x).bind_or fun next _ => ih next).congr (by simp)

theorem completes_forM {action : α → Except Failure Unit} {Blocks : α → Prop}
    (h : ∀ x, Completes (Blocks x) (action x)) (xs : List α) :
    Completes (∃ x ∈ xs, Blocks x) (xs.forM action) := by
  have hfold : xs.forM action = xs.foldlM (fun _ x => action x) () := by
    induction xs with
    | nil => rfl
    | cons x xs ih => exact congrArg (fun rest => action x >>= fun _ => rest) ih
  rw [hfold]
  exact completes_foldlM (fun _ => h) xs ()

/-- Attempts on the items of a list break off at the first item that is a reason to, if those before
it go well. -/
theorem ends_mapM {f : α → Except Failure β} {Blocks : α → Prop}
    (h : ∀ x, Ends expected (Blocks x) (f x)) (xs : List α) :
    Ends expected (∃ before x after, xs = before ++ x :: after ∧
      (∀ earlier ∈ before, ∃ y, f earlier = .ok y) ∧ Blocks x) (xs.mapM f) := by
  induction xs with
  | nil =>
    refine .ok ?_
    rintro ⟨before, x, after, hxs, -⟩
    cases before <;> cases hxs
  | cons x xs ih =>
    rw [List.mapM_cons]
    refine ((h x).bind fun y _ => ih.map).congr ?_
    constructor
    · rintro (hblocks | ⟨y, hy, before, z, after, rfl, hbefore, hblocks⟩)
      · exact ⟨[], x, xs, rfl, nofun, hblocks⟩
      · exact ⟨x :: before, z, after, rfl, List.forall_mem_cons.mpr ⟨⟨y, hy⟩, hbefore⟩, hblocks⟩
    · rintro ⟨_ | ⟨y, before⟩, z, after, hxs, hbefore, hblocks⟩
      · cases hxs
        exact .inl hblocks
      · cases hxs
        obtain ⟨⟨y, hy⟩, hrest⟩ := List.forall_mem_cons.mp hbefore
        exact .inr ⟨y, hy, before, z, after, rfl, hrest, hblocks⟩

end TypedRoutes
