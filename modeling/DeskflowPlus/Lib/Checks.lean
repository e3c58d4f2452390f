import Mathlib.Logic.Basic

/-!
# Chains of checks

A validator or a decoder is a chain of checks, each with the error it fails with. That a chain
succeeds means that every check of it does, which these lemmas unfold from left to right.
-/

namespace Checks

variable {ε : Type*} {α β : Type}

def require (condition : Prop) [Decidable condition] (error : ε) : Except ε Unit :=
  if condition then .ok () else .error error

/-- Go on with the value, if there is one. -/
def present (value : Option α) (error : ε) : Except ε α :=
  match value with
  | some value => .ok value
  | none => .error error

variable {error : ε}

@[simp]
theorem require_eq_ok {condition : Prop} [Decidable condition] :
    require condition error = .ok () ↔ condition := by
  unfold require
  split
  · rename_i h
    exact iff_of_true rfl h
  · rename_i h
    exact iff_of_false nofun h

theorem require_of {condition : Prop} [Decidable condition] (h : condition) :
    require condition error = .ok () :=
  require_eq_ok.mpr h

variable {value : Option α}

@[simp]
theorem present_eq_ok {result : α} :
    present value error = .ok result ↔ value = some result := by
  cases value with
  | none => exact iff_of_false nofun nofun
  | some value => simp [present]

@[simp]
theorem present_some {value : α} : present (some value) error = .ok value := rfl

variable {x : Except ε α} {f : α → Except ε β} {result : β}

/-- A chain succeeds when its first check does, and the rest with what it found. -/
theorem bind_eq_ok :
    x >>= f = .ok result ↔ ∃ value, x = .ok value ∧ f value = .ok result := by
  cases x with
  | error error => exact iff_of_false nofun nofun
  | ok value =>
    constructor
    · exact fun h => ⟨value, rfl, h⟩
    · rintro ⟨_, h, hresult⟩
      cases h
      exact hresult

theorem unit_bind_eq_ok {x : Except ε Unit} {f : Unit → Except ε β} :
    x >>= f = .ok result ↔ x = .ok () ∧ f () = .ok result := by
  rw [bind_eq_ok]
  exact ⟨fun ⟨_, h⟩ => h, fun h => ⟨(), h⟩⟩

theorem require_bind_eq_ok {condition : Prop} [Decidable condition] {f : Unit → Except ε β} :
    require condition error >>= f = .ok result ↔ condition ∧ f () = .ok result := by
  rw [unit_bind_eq_ok, require_eq_ok]

theorem present_bind_eq_ok :
    present value error >>= f = .ok result ↔ ∃ found, value = some found ∧ f found = .ok result := by
  simp only [bind_eq_ok, present_eq_ok]

@[simp]
theorem require_eq_error {condition : Prop} [Decidable condition] {failure : ε} :
    require condition error = .error failure ↔ ¬ condition ∧ error = failure := by
  unfold require
  split
  · rename_i h
    exact iff_of_false nofun fun hnot => hnot.1 h
  · rename_i h
    exact ⟨fun heq => ⟨h, Except.error.inj heq⟩, fun hnot => congrArg Except.error hnot.2⟩

@[simp]
theorem present_eq_error {failure : ε} :
    present value error = .error failure ↔ value = none ∧ error = failure := by
  cases value <;> simp [present]

/-- A chain fails where its first check fails, or where the rest does. -/
theorem bind_eq_error {failure : ε} :
    x >>= f = .error failure ↔
      x = .error failure ∨ ∃ value, x = .ok value ∧ f value = .error failure := by
  cases x with
  | error error => exact ⟨fun h => .inl (congrArg Except.error (Except.error.inj h)),
      fun h => h.elim (fun h => congrArg Except.error (Except.error.inj h)) nofun⟩
  | ok value => exact ⟨fun h => .inr ⟨value, rfl, h⟩, fun h => h.elim nofun fun ⟨_, heq, hf⟩ =>
      Except.ok.inj heq ▸ hf⟩

theorem mapError_eq_ok {δ : Type*} {f : ε → δ} {result : α} :
    x.mapError f = .ok result ↔ x = .ok result := by
  cases x with
  | error error => exact iff_of_false nofun nofun
  | ok value => exact ⟨fun h => congrArg Except.ok (Except.ok.inj h),
      fun h => congrArg Except.ok (Except.ok.inj h)⟩

theorem mapError_eq_error {δ : Type*} {f : ε → δ} {failure : δ} :
    x.mapError f = .error failure ↔ ∃ error, x = .error error ∧ f error = failure := by
  cases x with
  | error error => exact ⟨fun h => ⟨error, rfl, Except.error.inj h⟩, fun ⟨_, herror, h⟩ =>
      congrArg Except.error (Except.error.inj herror ▸ h)⟩
  | ok value => exact iff_of_false (by rintro ⟨⟩) (by rintro ⟨_, ⟨⟩, _⟩)

theorem eq_ok_or_exists_error (x : Except ε Unit) : x = .ok () ∨ ∃ error, x = .error error := by
  cases x with
  | error error => exact .inr ⟨error, rfl⟩
  | ok => exact .inl rfl

theorem ok_bind {value : α} : Except.ok value >>= f = f value := rfl

/-! ### Checks along a list

A check of each item, given what was gathered from the ones before it.
-/

section Fold

variable {σ : Type} {check : σ → α → Except ε σ} {add : σ → α → σ} {Good : σ → Prop}
  {Valid : α → Prop}

theorem of_foldl (hadd : ∀ {gathered item}, Good (add gathered item) → Good gathered)
    {items : List α} {start : σ} (h : Good (items.foldl add start)) : Good start := by
  induction items generalizing start with
  | nil => exact h
  | cons item items ih => exact hadd (ih h)

theorem foldlM_eq_ok_iff
    (hcheck : ∀ {gathered next item}, Good gathered →
      (check gathered item = .ok next ↔ Valid item ∧ next = add gathered item ∧ Good next))
    (hadd : ∀ {gathered item}, Good (add gathered item) → Good gathered)
    {items : List α} {start last : σ} (hstart : Good start) :
    items.foldlM check start = .ok last ↔
      (∀ item ∈ items, Valid item) ∧ last = items.foldl add start ∧ Good last := by
  induction items generalizing start with
  | nil =>
    constructor
    · intro h
      cases h
      exact ⟨nofun, rfl, hstart⟩
    · rintro ⟨-, rfl, -⟩
      rfl
  | cons item items ih =>
    rw [List.foldlM_cons, bind_eq_ok, List.forall_mem_cons, List.foldl_cons]
    constructor
    · rintro ⟨next, hnext, h⟩
      obtain ⟨hitem, rfl, hgood⟩ := (hcheck hstart).mp hnext
      obtain ⟨hitems, hlast, hgood⟩ := (ih hgood).mp h
      exact ⟨⟨hitem, hitems⟩, hlast, hgood⟩
    · rintro ⟨⟨hitem, hitems⟩, rfl, hgood⟩
      have hnext := of_foldl hadd hgood
      exact ⟨_, (hcheck hstart).mpr ⟨hitem, rfl, hnext⟩, (ih hnext).mpr ⟨hitems, rfl, hgood⟩⟩

end Fold

theorem mapM_eq_ok_iff {check : α → Except ε β} {Valid : α → Prop} {value : α → β}
    (hcheck : ∀ {item result}, check item = .ok result ↔ Valid item ∧ result = value item)
    {items : List α} {results : List β} :
    items.mapM check = .ok results ↔ (∀ item ∈ items, Valid item) ∧ results = items.map value := by
  induction items generalizing results with
  | nil =>
    rw [List.mapM_nil]
    exact ⟨fun h => ⟨nofun, (Except.ok.inj h).symm⟩, fun h => congrArg Except.ok h.2.symm⟩
  | cons item items ih =>
    rw [List.mapM_cons, bind_eq_ok, List.forall_mem_cons, List.map_cons]
    simp only [bind_eq_ok, hcheck, ih]
    constructor
    · rintro ⟨_, ⟨hitem, rfl⟩, _, ⟨hitems, rfl⟩, h⟩
      exact ⟨⟨hitem, hitems⟩, (Except.ok.inj h).symm⟩
    · rintro ⟨⟨hitem, hitems⟩, rfl⟩
      exact ⟨_, ⟨hitem, rfl⟩, _, ⟨hitems, rfl⟩, rfl⟩

/-! ### Two chains

Chains that fail together, whatever the errors are, and whose values are related where they succeed.
-/

section Agrees

/-- Both fail, or both succeed with related values. -/
def Agrees (related : α → β → Prop) : Except ε α → Except ε β → Prop
  | .ok value, .ok other => related value other
  | .error _, .error _ => True
  | _, _ => False

variable {related : α → β → Prop} {x : Except ε α} {y : Except ε β}

theorem Agrees.bind {γ δ : Type} {results : γ → δ → Prop} {f : α → Except ε γ} {g : β → Except ε δ}
    (h : Agrees related x y) (hrest : ∀ value other, related value other → Agrees results (f value) (g other)) :
    Agrees results (x >>= f) (y >>= g) := by
  cases x with
  | error error =>
    cases y with
    | error failure => trivial
    | ok other => exact h.elim
  | ok value =>
    cases y with
    | error failure => exact h.elim
    | ok other => exact hrest value other h

theorem Agrees.mapError {f g : ε → ε} (h : Agrees related x y) :
    Agrees related (x.mapError f) (y.mapError g) := by
  cases x <;> cases y <;> exact h

theorem Agrees.rfl : Agrees Eq x x := by
  cases x with
  | error error => trivial
  | ok value => exact Eq.refl value

end Agrees

end Checks
