/-!
# Results of steps

When a composition of steps that may fail succeeds, and when it fails; and when two of them come to
the same, up to a relation of what they give.
-/

namespace Enrollment

section
variable {ε ε' α β : Type _}

/-- A composition succeeds if both steps do. -/
theorem bind_eq_ok_iff {x : Except ε α} {f : α → Except ε β} {b : β} :
    (x >>= f) = .ok b ↔ ∃ a, x = .ok a ∧ f a = .ok b := by
  cases x with
  | error e => exact ⟨nofun, nofun⟩
  | ok a => exact ⟨fun h => ⟨a, rfl, h⟩, fun ⟨_, rfl, h⟩ => h⟩

/-- A composition fails with the failure of the first step that fails. -/
theorem bind_eq_error_iff {x : Except ε α} {f : α → Except ε β} {e : ε} :
    (x >>= f) = .error e ↔ x = .error e ∨ ∃ a, x = .ok a ∧ f a = .error e := by
  cases x with
  | error e' =>
    exact ⟨fun h => .inl (congrArg _ (Except.error.inj h)),
      fun h => h.elim (fun h => congrArg _ (Except.error.inj h)) nofun⟩
  | ok a => exact ⟨fun h => .inr ⟨a, rfl, h⟩, fun h => h.elim nofun fun ⟨_, rfl, h⟩ => h⟩

theorem map_eq_ok_iff {x : Except ε α} {f : α → β} {b : β} :
    x.map f = .ok b ↔ ∃ a, x = .ok a ∧ f a = b := by
  cases x with
  | error e => exact ⟨nofun, nofun⟩
  | ok a => exact ⟨fun h => ⟨a, rfl, Except.ok.inj h⟩, fun ⟨_, rfl, h⟩ => congrArg _ h⟩

theorem map_eq_error_iff {x : Except ε α} {f : α → β} {e : ε} :
    x.map f = .error e ↔ x = .error e := by
  cases x with
  | error e' => exact ⟨fun h => congrArg _ (Except.error.inj h), fun h => by cases h; rfl⟩
  | ok a => exact ⟨nofun, nofun⟩

/-- Mapping with an injective function loses nothing. -/
theorem map_inj {x y : Except ε α} {f : α → β} (hf : ∀ a b, f a = f b → a = b) :
    x.map f = y.map f ↔ x = y := by
  constructor
  · intro h
    cases y with
    | error e => exact map_eq_error_iff.1 h
    | ok b =>
      obtain ⟨a, rfl, hab⟩ := map_eq_ok_iff.1 h
      rw [hf a b hab]
  · rintro rfl
    rfl

theorem mapError_eq_ok_iff {x : Except ε α} {f : ε → ε'} {a : α} :
    x.mapError f = .ok a ↔ x = .ok a := by
  cases x with
  | error d => exact ⟨nofun, nofun⟩
  | ok b => exact ⟨fun h => congrArg _ (Except.ok.inj h), fun h => by cases h; rfl⟩

theorem mapError_eq_error_iff {x : Except ε α} {f : ε → ε'} {e : ε'} :
    x.mapError f = .error e ↔ ∃ d, x = .error d ∧ f d = e := by
  cases x with
  | error d => exact ⟨fun h => ⟨d, rfl, Except.error.inj h⟩, fun ⟨_, rfl, h⟩ => congrArg _ h⟩
  | ok a => exact ⟨nofun, nofun⟩

/-- Steps over a list fail with the first of them that fails. -/
theorem mapM_cons_eq_error_iff {f : α → Except ε β} {x : α} {xs : List α} {e : ε} :
    (x :: xs).mapM f = .error e ↔
      f x = .error e ∨ (∀ e', f x ≠ .error e') ∧ xs.mapM f = .error e := by
  rw [List.mapM_cons, bind_eq_error_iff]
  refine or_congr_right ⟨?_, ?_⟩
  · rintro ⟨b, hb, h⟩
    rcases bind_eq_error_iff.1 h with h | ⟨_, -, h⟩
    · exact ⟨fun e' he => (by rw [hb] at he; cases he), h⟩
    · cases h
  · rintro ⟨hne, h⟩
    cases hf : f x with
    | error e' => exact absurd hf (hne e')
    | ok b => exact ⟨b, rfl, bind_eq_error_iff.2 (.inl h)⟩

/-- Steps over a list that fail do so with the failure of one of them. -/
theorem exists_mem_of_mapM_eq_error {f : α → Except ε β} {xs : List α} {e : ε}
    (h : xs.mapM f = .error e) : ∃ x ∈ xs, f x = .error e := by
  induction xs with
  | nil => cases h
  | cons x xs ih =>
    rcases mapM_cons_eq_error_iff.1 h with h | ⟨-, h⟩
    · exact ⟨x, .head _, h⟩
    · obtain ⟨y, hy, h⟩ := ih h
      exact ⟨y, .tail _ hy, h⟩

/-- Steps that fail alike on every member fail alike over a list. -/
theorem mapM_eq_error_congr {γ : Type _} {f : α → Except ε β} {g : α → Except ε γ} {xs : List α}
    (h : ∀ x ∈ xs, ∀ e, f x = .error e ↔ g x = .error e) {e : ε} :
    xs.mapM f = .error e ↔ xs.mapM g = .error e := by
  induction xs with
  | nil => exact ⟨fun h => (by cases h), fun h => (by cases h)⟩
  | cons x xs ih =>
    rw [mapM_cons_eq_error_iff, mapM_cons_eq_error_iff, ih fun x hx => h x (.tail _ hx)]
    have hx := h x (.head _)
    simp only [ne_eq, hx]

/-- If each step over a list can be undone, so can all of them. -/
theorem map_of_mapM_eq_ok {f : α → Except ε β} {g : β → α} {xs : List α} {ys : List β}
    (h : xs.mapM f = .ok ys) (hundo : ∀ x ∈ xs, ∀ y, f x = .ok y → g y = x) : ys.map g = xs := by
  induction xs generalizing ys with
  | nil => cases h; rfl
  | cons x xs ih =>
    rw [List.mapM_cons] at h
    obtain ⟨y, hy, h⟩ := bind_eq_ok_iff.1 h
    obtain ⟨ys, hys, h⟩ := bind_eq_ok_iff.1 h
    cases h
    rw [List.map_cons, hundo x (.head _) y hy, ih hys fun x hx => hundo x (.tail _ hx)]

theorem map_of_mapM_eq_some {f : α → Option β} {g : β → α} {xs : List α} {ys : List β}
    (h : xs.mapM f = some ys) (hundo : ∀ x ∈ xs, ∀ y, f x = some y → g y = x) : ys.map g = xs := by
  induction xs generalizing ys with
  | nil => cases h; rfl
  | cons x xs ih =>
    rw [List.mapM_cons] at h
    obtain ⟨y, hy, h⟩ := Option.bind_eq_some_iff.1 h
    obtain ⟨ys, hys, h⟩ := Option.bind_eq_some_iff.1 h
    cases h
    rw [List.map_cons, hundo x (.head _) y hy, ih hys fun x hx => hundo x (.tail _ hx)]

/-- What steps over a list give is given by one of them. -/
theorem exists_mem_of_mapM_eq_some {f : α → Option β} {xs : List α} {ys : List β} {y : β}
    (h : xs.mapM f = some ys) (hmem : y ∈ ys) : ∃ x ∈ xs, f x = some y := by
  induction xs generalizing ys with
  | nil => cases h; cases hmem
  | cons x xs ih =>
    rw [List.mapM_cons] at h
    obtain ⟨y', hy, h⟩ := Option.bind_eq_some_iff.1 h
    obtain ⟨ys, hys, h⟩ := Option.bind_eq_some_iff.1 h
    cases h
    cases hmem with
    | head => exact ⟨x, .head _, hy⟩
    | tail _ hmem =>
      obtain ⟨x', hx', hf⟩ := ih hys hmem
      exact ⟨x', .tail _ hx', hf⟩

end

/-! ## Two results -/

/-- Two results are alike: both are the same failure, or `R` relates what they give. -/
inductive Alike {ε α β : Type _} (R : α → β → Prop) : Except ε α → Except ε β → Prop
  | error (e : ε) : Alike R (.error e) (.error e)
  | ok {a b} (h : R a b) : Alike R (.ok a) (.ok b)

namespace Alike

section
variable {ε ε' α β : Type _} {R : α → β → Prop} {x : Except ε α} {y : Except ε β}

theorem cases (h : Alike R x y) : (∃ e, x = .error e ∧ y = .error e) ∨
    ∃ a b, x = .ok a ∧ y = .ok b ∧ R a b := by
  cases h with
  | error e => exact .inl ⟨e, rfl, rfl⟩
  | ok h => exact .inr ⟨_, _, rfl, rfl, h⟩

theorem mapError (h : Alike R x y) (f : ε → ε') : Alike R (x.mapError f) (y.mapError f) := by
  cases h with
  | error e => exact .error (f e)
  | ok h => exact .ok h

end

end Alike

end Enrollment
