import Mathlib.Data.List.Forall2

namespace Except

@[simp] theorem pure_eq_ok (a : α) : (pure a : Except ε α) = .ok a := rfl

@[simp] theorem ok_bind (a : α) (f : α → Except ε β) : (.ok a : Except ε α) >>= f = f a := rfl

@[simp] theorem error_bind (e : ε) (f : α → Except ε β) :
    (.error e : Except ε α) >>= f = .error e := rfl

theorem bind_eq_ok_iff {x : Except ε α} {f : α → Except ε β} {b : β} :
    x >>= f = .ok b ↔ ∃ a, x = .ok a ∧ f a = .ok b := by
  cases x <;> simp

theorem bind_pure_eq_ok_iff {x : Except ε α} {f : α → β} {b : β} :
    (do return f (← x)) = (.ok b : Except ε β) ↔ ∃ a, x = .ok a ∧ b = f a := by
  cases x <;> simp [eq_comm]

theorem bind_eq_error_iff {x : Except ε α} {f : α → Except ε β} {e : ε} :
    x >>= f = .error e ↔ x = .error e ∨ ∃ a, x = .ok a ∧ f a = .error e := by
  cases x <;> simp

theorem bind_pure_eq_error_iff {x : Except ε α} {f : α → β} {e : ε} :
    (do return f (← x)) = (.error e : Except ε β) ↔ x = .error e := by
  cases x <;> simp

theorem ite_check_eq_ok_iff {needed : Bool} {check : Except ε α} {next : Except ε β} {b : β} :
    (if needed = true then (do let _ ← check; next) else next) = .ok b ↔
      (needed = true → ∃ a, check = .ok a) ∧ next = .ok b := by
  cases needed <;> simp [bind_eq_ok_iff]

theorem not_ok_iff {x : Except ε α} : (¬∃ a, x = .ok a) ↔ ∃ e, x = .error e := by
  cases x <;> simp

theorem mapM_eq_ok {f : α → Except ε β} {g : α → β} {as : List α}
    (h : ∀ a ∈ as, f a = .ok (g a)) : as.mapM f = .ok (as.map g) := by
  induction as with
  | nil => rfl
  | cons a rest ih =>
    rw [List.forall_mem_cons] at h
    rw [List.mapM_cons, h.1, ih h.2]
    rfl

theorem mapM_map_eq_ok {write : α → β} {read : β → Except ε α} {as : List α}
    (h : ∀ a ∈ as, read (write a) = .ok a) : (as.map write).mapM read = .ok as := by
  have each : ∀ a ∈ as, (read ∘ write) a = .ok (id a) := h
  rw [List.mapM_map, mapM_eq_ok each, List.map_id]

theorem mapM_eq_ok_iff {f : α → Except ε β} {as : List α} {bs : List β} :
    as.mapM f = .ok bs ↔ List.Forall₂ (fun a b => f a = .ok b) as bs := by
  induction as generalizing bs with
  | nil => simp [eq_comm]
  | cons a rest ih =>
    rw [List.mapM_cons, List.forall₂_cons_left_iff]
    simp only [bind_eq_ok_iff, ih, pure_eq_ok, ok.injEq]
    constructor
    · rintro ⟨b, first, others, readOthers, rfl⟩
      exact ⟨b, others, first, readOthers, rfl⟩
    · rintro ⟨b, others, first, readOthers, rfl⟩
      exact ⟨b, first, others, readOthers, rfl⟩

/-- A list fails with its first member that fails. -/
theorem mapM_eq_error_iff {f : α → Except ε β} {as : List α} {e : ε} :
    as.mapM f = .error e ↔
      ∃ before a after, as = before ++ a :: after ∧ (∀ b ∈ before, ∃ x, f b = .ok x) ∧
        f a = .error e := by
  induction as with
  | nil => simp
  | cons a rest ih =>
    rw [List.mapM_cons, bind_eq_error_iff]
    simp only [bind_pure_eq_error_iff, ih]
    constructor
    · rintro (failed | ⟨x, passed, before, b, after, rfl, passedToo, failed⟩)
      · exact ⟨[], a, rest, rfl, List.forall_mem_nil _, failed⟩
      · exact ⟨a :: before, b, after, rfl, List.forall_mem_cons.2 ⟨⟨x, passed⟩, passedToo⟩, failed⟩
    · rintro ⟨_ | ⟨c, before⟩, b, after, split, passed, failed⟩
      · cases split
        exact .inl failed
      · cases split
        obtain ⟨⟨x, first⟩, others⟩ := List.forall_mem_cons.1 passed
        exact .inr ⟨x, first, before, b, after, rfl, others, failed⟩

theorem mapM_fails_iff {f : α → Except ε β} {as : List α} :
    (∃ e, as.mapM f = .error e) ↔ ∃ a ∈ as, ∃ e, f a = .error e := by
  induction as with
  | nil => simp
  | cons a rest ih =>
    rw [List.exists_mem_cons_iff, ← ih, List.mapM_cons]
    cases f a <;> simp [bind_eq_error_iff]

theorem exists_mapM_eq_ok_iff {f : α → Except ε β} {as : List α} :
    (∃ bs, as.mapM f = .ok bs) ↔ ∀ a ∈ as, ∃ b, f a = .ok b := by
  rw [← not_iff_not, not_ok_iff, mapM_fails_iff]
  simp only [not_forall, exists_prop, not_ok_iff]

def FailsOnly (P : ε → Prop) (x : Except ε α) : Prop := ∀ err, x = .error err → P err

namespace FailsOnly

variable {P : ε → Prop}

theorem ok (a : α) : FailsOnly P (.ok a) := nofun

theorem error {err : ε} (h : P err) : FailsOnly P (.error err : Except ε α) := by
  rintro _ ⟨⟩
  exact h

theorem bind {x : Except ε α} {f : α → Except ε β} (first : x.FailsOnly P)
    (next : ∀ a, x = .ok a → (f a).FailsOnly P) : (x >>= f).FailsOnly P := by
  intro err h
  obtain failed | ⟨a, passed, failed⟩ := bind_eq_error_iff.1 h
  · exact first err failed
  · exact next a passed err failed

theorem mapM {f : α → Except ε β} (each : ∀ a, (f a).FailsOnly P) (as : List α) :
    (as.mapM f).FailsOnly P := by
  induction as with
  | nil => exact ok []
  | cons a rest ih =>
    rw [List.mapM_cons]
    apply bind (each a)
    intro b _
    apply bind ih
    intro bs _
    exact ok (b :: bs)

end FailsOnly

def Yields (P : α → Prop) (x : Except ε α) : Prop := ∀ a, x = .ok a → P a

namespace Yields

variable {P : β → Prop}

theorem ok {b : β} (h : P b) : Yields P (.ok b : Except ε β) := by
  rintro _ ⟨⟩
  exact h

theorem error (err : ε) : Yields P (.error err) := nofun

theorem bind {x : Except ε α} {f : α → Except ε β} (next : ∀ a, x = .ok a → (f a).Yields P) :
    (x >>= f).Yields P := by
  intro b h
  obtain ⟨a, passed, h⟩ := bind_eq_ok_iff.1 h
  exact next a passed b h

theorem mapM_of_mem {f : α → Except ε β} {as : List α} (each : ∀ a ∈ as, (f a).Yields P) :
    (as.mapM f).Yields fun bs => ∀ b ∈ bs, P b := by
  induction as with
  | nil => exact ok (by simp)
  | cons a rest ih =>
    obtain ⟨first, others⟩ := List.forall_mem_cons.1 each
    rw [List.mapM_cons]
    apply bind
    intro b read
    apply bind
    intro bs readOthers
    exact ok (List.forall_mem_cons.2 ⟨first b read, ih others bs readOthers⟩)

theorem mapM {f : α → Except ε β} (each : ∀ a, (f a).Yields P) (as : List α) :
    (as.mapM f).Yields fun bs => ∀ b ∈ bs, P b :=
  mapM_of_mem fun a _ => each a

theorem mapM_ne_nil {f : α → Except ε β} {as : List α} (h : as ≠ []) :
    (as.mapM f).Yields (· ≠ []) := by
  cases as with
  | nil => exact absurd rfl h
  | cons a rest =>
    rw [List.mapM_cons]
    apply bind
    intro b _
    apply bind
    intro bs _
    exact ok (List.cons_ne_nil b bs)

end Yields

inductive Parallel (E : ε → δ → Prop) (R : α → β → Prop) : Except ε α → Except δ β → Prop
  | ok {a : α} {b : β} (h : R a b) : Parallel E R (.ok a) (.ok b)
  | error {e : ε} {d : δ} (h : E e d) : Parallel E R (.error e) (.error d)

namespace Parallel

variable {E : ε → δ → Prop} {x : Except ε α} {y : Except δ β}

theorem refl (x : Except ε α) : Parallel Eq Eq x x := by
  cases x with
  | ok => exact .ok rfl
  | error => exact .error rfl

theorem bind {S : α → β → Prop} {R : α' → β' → Prop} {f : α → Except ε α'} {g : β → Except δ β'}
    (first : Parallel E S x y) (next : ∀ a b, S a b → Parallel E R (f a) (g b)) :
    Parallel E R (x >>= f) (y >>= g) := by
  cases first with
  | ok h => exact next _ _ h
  | error h => exact .error h

theorem bind_eq {R : α' → β' → Prop} {y : Except δ α} {f : α → Except ε α'} {g : α → Except δ β'}
    (first : Parallel E Eq x y) (next : ∀ a, Parallel E R (f a) (g a)) :
    Parallel E R (x >>= f) (y >>= g) := by
  apply bind first
  rintro a _ rfl
  exact next a

theorem mapM {R : α → β → Prop} {f : γ → Except ε α} {g : γ → Except δ β}
    (each : ∀ c, Parallel E R (f c) (g c)) (cs : List γ) :
    Parallel E (List.Forall₂ R) (cs.mapM f) (cs.mapM g) := by
  induction cs with
  | nil => exact .ok .nil
  | cons c rest ih =>
    rw [List.mapM_cons, List.mapM_cons]
    apply bind (each c)
    intro a b head
    apply bind ih
    intro as bs tail
    exact .ok (.cons head tail)

theorem imp {R S : α → β → Prop} (h : Parallel E R x y) (weaker : ∀ a b, R a b → S a b) :
    Parallel E S x y := by
  cases h with
  | ok h => exact .ok (weaker _ _ h)
  | error h => exact .error h

theorem meet {F : ε → ε → Prop} {R : α → β → Prop} {S : α' → β → Prop} {T : α → α' → Prop}
    {z : Except ε α'} (left : Parallel E R x y) (right : Parallel E S z y)
    (errors : ∀ e e' d, E e d → E e' d → F e e') (results : ∀ a a' b, R a b → S a' b → T a a') :
    Parallel F T x z := by
  cases left with
  | ok h =>
    cases right with
    | ok h' => exact .ok (results _ _ _ h h')
  | error h =>
    cases right with
    | error h' => exact .error (errors _ _ _ h h')

theorem eq_error_iff {R : α → β → Prop} {y : Except ε β} {e : ε} (h : Parallel Eq R x y) :
    x = .error e ↔ y = .error e := by
  cases h with
  | ok => simp
  | error h => rw [h, error.injEq, error.injEq]

theorem of_ok {R : α → β → Prop} {a : α} {b : β} (h : Parallel E R x y) (left : x = .ok a)
    (right : y = .ok b) : R a b := by
  subst left right
  cases h with
  | ok h => exact h

end Parallel

end Except
