import Mathlib.Data.List.Forall2

/-!
# Attempts

An attempt that is gone on with has a result or fails as before. Attempts on the items of a list all
go well, or they end with the first one that fails. Steps on a state also leave the state that they
have reached.
-/
namespace TypedRoutes

section Except

variable {ε α β : Type} {x : Except ε α} {f : α → β} {e : ε}

theorem Except.map_eq_ok_iff {b : β} : x.map f = .ok b ↔ ∃ a, x = .ok a ∧ f a = b := by
  cases x <;> simp [Except.map]

theorem Except.exists_map_eq_ok_iff : (∃ b, x.map f = .ok b) ↔ ∃ a, x = .ok a := by
  cases x <;> simp [Except.map]

theorem Except.map_eq_error_iff : x.map f = .error e ↔ x = .error e := by
  cases x <;> simp [Except.map]

theorem Except.bind_eq_ok_iff {next : α → Except ε β} {b : β} :
    x >>= next = .ok b ↔ ∃ a, x = .ok a ∧ next a = .ok b := by
  cases x <;> simp [bind, Except.bind]

theorem Except.map_bind {γ : Type} {next : α → Except ε β} {f : β → γ} :
    (x >>= next).map f = x >>= fun a => (next a).map f := by
  cases x <;> rfl

/-- Going on from an image gives an image if going on from the original does. -/
theorem Except.map_bind_eq_map {γ δ : Type} {next : α → Except ε γ} {next' : β → Except ε δ}
    {image : γ → δ} (h : ∀ a, next' (f a) = (next a).map image) :
    x.map f >>= next' = (x >>= next).map image := by
  cases x with
  | error e => rfl
  | ok a => exact h a

theorem Except.toOption_eq_some_iff {a : α} : x.toOption = some a ↔ x = .ok a := by
  cases x <;> simp [Except.toOption]

end Except

/-! ## Items of a list -/

section List

variable {ε α β : Type} {f : α → Except ε β} {x : α} {xs : List α} {e : ε}

theorem mapM_cons_of_error (h : f x = .error e) : (x :: xs).mapM f = .error e := by
  rw [List.mapM_cons, h]
  rfl

theorem mapM_cons_of_ok {y : β} (h : f x = .ok y) :
    (x :: xs).mapM f = (xs.mapM f).map (y :: ·) := by
  rw [List.mapM_cons, h]
  rfl

theorem mapM_eq_ok_iff {ys : List β} :
    xs.mapM f = .ok ys ↔ List.Forall₂ (fun x y => f x = .ok y) xs ys := by
  induction xs generalizing ys with
  | nil => simp [pure, Except.pure, eq_comm]
  | cons x xs ih =>
    cases hx : f x with
    | error e => simp [mapM_cons_of_error hx, List.forall₂_cons_left_iff, hx]
    | ok y =>
      rw [mapM_cons_of_ok hx, Except.map_eq_ok_iff]
      constructor
      · rintro ⟨others, hothers, rfl⟩
        exact .cons hx (ih.mp hothers)
      · intro h
        obtain ⟨z, others, hz, hothers, rfl⟩ := List.forall₂_cons_left_iff.mp h
        rw [hx] at hz
        exact ⟨others, ih.mpr hothers, by rw [Except.ok.inj hz]⟩

theorem mapM_congr {g : α → Except ε β} (h : ∀ x ∈ xs, f x = g x) : xs.mapM f = xs.mapM g := by
  induction xs with
  | nil => rfl
  | cons x xs ih =>
    obtain ⟨hx, hxs⟩ := List.forall_mem_cons.mp h
    rw [List.mapM_cons, List.mapM_cons, hx, ih hxs]

/-- Where all attempts go well, each of them does. -/
theorem exists_of_mapM_eq_ok {ys : List β} (h : xs.mapM f = .ok ys) (hx : x ∈ xs) :
    ∃ y, f x = .ok y := by
  have hall := mapM_eq_ok_iff.mp h
  induction hall with
  | nil => cases hx
  | cons hhead htail ih =>
    rcases List.mem_cons.mp hx with rfl | hx
    · exact ⟨_, hhead⟩
    · exact ih (mapM_eq_ok_iff.mpr htail) hx

/-- Where each attempt goes well, all of them do. -/
theorem exists_mapM_eq_ok (h : ∀ x ∈ xs, ∃ y, f x = .ok y) : ∃ ys, xs.mapM f = .ok ys := by
  induction xs with
  | nil => exact ⟨[], rfl⟩
  | cons x xs ih =>
    obtain ⟨⟨y, hy⟩, hrest⟩ := List.forall_mem_cons.mp h
    obtain ⟨ys, hys⟩ := ih hrest
    exact ⟨y :: ys, by rw [mapM_cons_of_ok hy, hys]; rfl⟩

/-- Attempts end with the first one that fails. -/
theorem mapM_eq_error_iff :
    xs.mapM f = .error e ↔ ∃ before x after, xs = before ++ x :: after ∧
      (∀ other ∈ before, ∃ y, f other = .ok y) ∧ f x = .error e := by
  induction xs with
  | nil => simp [pure, Except.pure]
  | cons x xs ih =>
    cases hx : f x with
    | error e' =>
      rw [mapM_cons_of_error hx]
      constructor
      · intro h
        cases h
        exact ⟨[], x, xs, rfl, by simp, hx⟩
      · rintro ⟨_ | ⟨other, before⟩, z, after, hxs, hbefore, hz⟩
        · cases hxs
          rw [hx] at hz
          cases hz
          rfl
        · cases hxs
          obtain ⟨y, hy⟩ := hbefore x List.mem_cons_self
          rw [hx] at hy
          cases hy
    | ok y =>
      rw [mapM_cons_of_ok hx, Except.map_eq_error_iff, ih]
      constructor
      · rintro ⟨before, z, after, rfl, hbefore, hz⟩
        exact ⟨x :: before, z, after, rfl, List.forall_mem_cons.mpr ⟨⟨y, hx⟩, hbefore⟩, hz⟩
      · rintro ⟨_ | ⟨other, before⟩, z, after, hxs, hbefore, hz⟩
        · cases hxs
          rw [hx] at hz
          cases hz
        · cases hxs
          exact ⟨before, z, after, rfl, (List.forall_mem_cons.mp hbefore).2, hz⟩

/-- Attempts on an image of a state give the image of what they give on the state, if each does. -/
theorem foldlM_image {σ τ : Type} {step : σ → α → Except ε σ} {step' : τ → α → Except ε τ}
    (image : σ → τ) (h : ∀ s, ∀ x ∈ xs, step' (image s) x = (step s x).map image) (s : σ) :
    xs.foldlM step' (image s) = (xs.foldlM step s).map image := by
  induction xs generalizing s with
  | nil => rfl
  | cons x xs ih =>
    rw [List.foldlM_cons, List.foldlM_cons, h s x List.mem_cons_self]
    exact Except.map_bind_eq_map fun next =>
      ih (fun s y hy => h s y (List.mem_cons_of_mem x hy)) next

end List

/-! ## Steps on a state -/

section Steps

variable {ε σ α β : Type}

/-- Steps go on with a result in the state that is left, or end as before. -/
theorem run_bind (x : ExceptT ε (StateM σ) α) (f : α → ExceptT ε (StateM σ) β) (state : σ) :
    StateT.run (ExceptT.run (x >>= f)) state = match StateT.run (ExceptT.run x) state with
      | (.ok a, next) => StateT.run (ExceptT.run (f a)) next
      | (.error e, next) => (.error e, next) := by
  simp only [bind, ExceptT.bind, ExceptT.run, ExceptT.mk, StateT.run, StateT.bind]
  rcases (x state : Except ε α × σ) with ⟨_ | _, _⟩ <;> rfl

end Steps

end TypedRoutes
