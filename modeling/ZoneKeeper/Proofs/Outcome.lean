import Mathlib.Data.List.Forall2
import ZoneKeeper.Journal

/-!
# Outcomes of activities in turn

What comes of a list of activities is decided without their journals: it is the list of what came of
each, if none of them failed.
-/

namespace ZoneKeeper

variable {ε α β : Type}

@[simp] theorem ok_bind (a : α) (f : α → Except ε β) : (Except.ok a >>= f) = f a := rfl

@[simp] theorem error_bind (e : ε) (f : α → Except ε β) : (Except.error e >>= f) = .error e := rfl

theorem bind_eq_ok_iff {x : Except ε α} {f : α → Except ε β} {b : β} :
    x >>= f = .ok b ↔ ∃ a, x = .ok a ∧ f a = .ok b := by
  cases x <;> simp

@[simp] theorem mapError_eq_ok_iff {ε' : Type} {x : Except ε α} {f : ε → ε'} {a : α} :
    x.mapError f = .ok a ↔ x = .ok a := by
  cases x <;> simp [Except.mapError]

@[simp] theorem map_eq_ok_iff {x : Except ε α} {f : α → β} {b : β} :
    x.map f = .ok b ↔ ∃ a, x = .ok a ∧ f a = b := by
  cases x <;> simp [Except.map]

@[simp] theorem map_eq_error_iff {x : Except ε α} {f : α → β} {e : ε} :
    x.map f = .error e ↔ x = .error e := by
  cases x <;> simp [Except.map]

theorem exists_eq_ok_of_isOk {x : Except ε α} (h : x.isOk = true) : ∃ a, x = .ok a := by
  cases x with
  | error e => cases h
  | ok a => exact ⟨a, rfl⟩

/-- A list is gone through without a fault exactly if every element is. -/
theorem mapM_eq_ok_iff {f : α → Except ε β} {xs : List α} {ys : List β} :
    xs.mapM f = .ok ys ↔ List.Forall₂ (fun x y => f x = .ok y) xs ys := by
  induction xs generalizing ys with
  | nil => cases ys <;> simp [pure, Except.pure]
  | cons x xs ih =>
    rw [List.mapM_cons]
    cases hx : f x with
    | error e => cases ys <;> simp [hx]
    | ok y =>
      cases hxs : xs.mapM f with
      | error e => cases ys <;> simp [hx, ← ih, hxs]
      | ok rest => cases ys <;> simp [pure, Except.pure, hx, ← ih, hxs]

theorem exists_mapM_eq_ok {f : α → Except ε β} {xs : List α} (h : ∀ x ∈ xs, ∃ y, f x = .ok y) :
    ∃ ys, xs.mapM f = .ok ys := by
  induction xs with
  | nil => exact ⟨[], rfl⟩
  | cons x xs ih =>
    obtain ⟨y, hy⟩ := h x List.mem_cons_self
    obtain ⟨ys, hys⟩ := ih fun x hx => h x (List.mem_cons_of_mem _ hx)
    refine ⟨y :: ys, mapM_eq_ok_iff.mpr (.cons hy (mapM_eq_ok_iff.mp hys))⟩

/-! ## Faults found all at once -/

/-- What comes of a thing on which all faults are found at once: the first of them, or the thing. -/
def verdict (faults : List ε) (a : α) : Except ε α :=
  match faults with
  | [] => .ok a
  | fault :: _ => .error fault

@[simp] theorem verdict_nil (a : α) : verdict ([] : List ε) a = .ok a := rfl

@[simp] theorem verdict_cons (fault : ε) (faults : List ε) (a : α) :
    verdict (fault :: faults) a = .error fault := rfl

@[simp] theorem verdict_eq_ok_iff {faults : List ε} {a b : α} :
    verdict faults a = .ok b ↔ faults = [] ∧ a = b := by
  cases faults <;> simp

@[simp] theorem map_verdict (faults : List ε) (a : α) (f : α → β) :
    (verdict faults a).map f = verdict faults (f a) := by
  cases faults <;> rfl

@[simp] theorem mapError_verdict {ε' : Type} (faults : List ε) (a : α) (f : ε → ε') :
    (verdict faults a).mapError f = verdict (faults.map f) a := by
  cases faults <;> rfl

/-- Faults that are found one after another come in that order. -/
theorem verdict_bind {faults later : List ε} {a : α} {b : β} {f : α → Except ε β}
    (h : f a = verdict later b) : verdict faults a >>= f = verdict (faults ++ later) b := by
  cases faults with
  | nil => exact h
  | cons fault rest => rfl

theorem verdict_bind_ok (faults : List ε) (a : α) (f : α → β) :
    (verdict faults a >>= fun a => .ok (f a)) = verdict faults (f a) := by
  cases faults <;> rfl

/-- Going through a list finds the faults of its elements in their order. -/
theorem mapM_verdict (faults : α → List ε) (f : α → β) (xs : List α) :
    (xs.mapM fun x => verdict (faults x) (f x)) = verdict (xs.flatMap faults) (xs.map f) := by
  induction xs with
  | nil => rfl
  | cons x xs ih =>
    rw [List.mapM_cons, ih, List.flatMap_cons, List.map_cons]
    cases faults x with
    | nil => cases xs.flatMap faults <;> rfl
    | cons fault rest => rfl

theorem exists_of_mem_right {R : α → β → Prop} {xs : List α} {ys : List β} {y : β}
    (h : List.Forall₂ R xs ys) (hy : y ∈ ys) : ∃ x ∈ xs, R x y := by
  induction h with
  | nil => cases hy
  | cons hx _ ih =>
    rcases List.mem_cons.mp hy with rfl | hy
    · exact ⟨_, List.mem_cons_self, hx⟩
    · obtain ⟨x, hmem, hx⟩ := ih hy
      exact ⟨x, List.mem_cons_of_mem _ hmem, hx⟩

theorem exists_of_mem_mapM {f : α → Except ε β} {xs : List α} {ys : List β} {y : β}
    (h : xs.mapM f = .ok ys) (hy : y ∈ ys) : ∃ x ∈ xs, f x = .ok y :=
  exists_of_mem_right (R := fun x y => f x = .ok y) (mapM_eq_ok_iff.mp h) hy

theorem exists_ok_of_mem_mapM {f : α → Except ε β} {xs : List α} {ys : List β} {x : α}
    (h : xs.mapM f = .ok ys) (hx : x ∈ xs) : ∃ y, f x = .ok y := by
  obtain ⟨y, -, hy⟩ :=
    exists_of_mem_right (R := fun y x => f x = .ok y) (mapM_eq_ok_iff.mp h).flip hx
  exact ⟨y, hy⟩

namespace Journaled

theorem ext {x y : Journaled ε α} (hj : x.journal = y.journal) (ho : x.outcome = y.outcome) :
    x = y := by
  cases x
  cases y
  cases hj
  cases ho
  rfl

theorem journal_bind (x : Journaled ε α) (f : α → Journaled ε β) :
    (x >>= f).journal =
      match x.outcome with
      | .error _ => x.journal
      | .ok a => x.journal ++ (f a).journal := by
  show (bind x f).journal = _
  unfold bind
  cases x.outcome <;> rfl

theorem bind_pure' (x : Journaled ε α) : (x >>= fun a => ofExcept (.ok a)) = x := by
  apply ext
  · rw [journal_bind]
    cases x.outcome <;> simp [ofExcept]
  · rw [outcome_bind]
    cases x.outcome <;> rfl

theorem bind_assoc' {γ : Type} (x : Journaled ε α) (f : α → Journaled ε β)
    (g : β → Journaled ε γ) : x >>= f >>= g = x >>= fun a => f a >>= g := by
  apply ext
  · simp only [journal_bind, outcome_bind]
    cases x.outcome with
    | error e => rfl
    | ok a => cases hb : (f a).outcome <;> simp [hb]
  · simp only [outcome_bind]
    cases x.outcome <;> rfl

/-- Activities in turn can be grouped in any way, journals included. -/
instance : LawfulMonad (Journaled ε) :=
  LawfulMonad.mk' _ bind_pure' (fun _ _ => ext rfl rfl) bind_assoc'

theorem outcome_mapM (f : α → Journaled ε β) (xs : List α) :
    (xs.mapM f).outcome = xs.mapM fun x => (f x).outcome := by
  induction xs with
  | nil => rfl
  | cons x xs ih =>
    rw [List.mapM_cons, List.mapM_cons, outcome_bind]
    congr 1
    funext y
    rw [outcome_bind, ih]
    rfl

end Journaled

end ZoneKeeper
