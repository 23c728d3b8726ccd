import Template.Resolver

/-!
# Asking for one name after another

`Resolver.Answers` follows a resolver through a list of names: which values it gives, and in which state it ends up. Whatever
the names, a resolver either answers all of them or fails at a first one (`answers_or_fails`), and it answers in one way only
(`Answers.unique`). A resolver that never fails answers every list of names (`NeverFails.answers`).
-/

namespace Template

variable {σ ε : Type}

namespace Resolver

/-- Asked for the names one after another, from a state on, the resolver gives the values and is left in the last state. -/
inductive Answers (r : Resolver σ ε) : σ → List Text → List (Option Text) → σ → Prop where
  | nil (st : σ) : Answers r st [] [] st
  | cons {st st₁ st₂ : σ} {name : Text} {value : Option Text} {names : List Text} {values : List (Option Text)} :
      r.ask st name = (.ok value, st₁) → Answers r st₁ names values st₂ →
        Answers r st (name :: names) (value :: values) st₂

/-- The resolver answers every name in every state. -/
def NeverFails (r : Resolver σ ε) : Prop := ∀ st name, ∃ value st', r.ask st name = (.ok value, st')

variable {r : Resolver σ ε} {st st₁ st₂ : σ} {xs ys names : List Text} {vs ws values : List (Option Text)}

/-- There is one value for each name. -/
theorem Answers.length_eq (h : r.Answers st names values st₁) : values.length = names.length := by
  induction h with
  | nil => rfl
  | cons _ _ ih => simp [ih]

/-- The answers to two lists of names, one behind the other, are those to the first and those to the second. -/
theorem Answers.split (h : r.Answers st (xs ++ ys) values st₂) :
    ∃ vs ws st₁, values = vs ++ ws ∧ r.Answers st xs vs st₁ ∧ r.Answers st₁ ys ws st₂ := by
  induction xs generalizing st values with
  | nil => exact ⟨[], values, st, rfl, .nil st, h⟩
  | cons x xs ih =>
    cases h with
    | cons hask hrest =>
      obtain ⟨vs, ws, st₁, rfl, h₁, h₂⟩ := ih hrest
      exact ⟨_ :: vs, ws, st₁, rfl, .cons hask h₁, h₂⟩

/-- A resolver answers in one way only. -/
theorem Answers.unique (h : r.Answers st names vs st₁) (h' : r.Answers st names ws st₂) : vs = ws ∧ st₁ = st₂ := by
  induction h generalizing ws with
  | nil =>
    cases h'
    exact ⟨rfl, rfl⟩
  | cons hask _ ih =>
    cases h' with
    | cons hask' hrest =>
      rw [hask] at hask'
      cases hask'
      obtain ⟨rfl, rfl⟩ := ih hrest
      exact ⟨rfl, rfl⟩

/-- A resolver answers all of the names, or it fails at a first one. -/
theorem answers_or_fails (r : Resolver σ ε) (st : σ) (names : List Text) :
    (∃ values st', r.Answers st names values st') ∨
      ∃ before name after values st₁ e st₂, names = before ++ name :: after ∧ r.Answers st before values st₁ ∧
        r.ask st₁ name = (.error e, st₂) := by
  induction names generalizing st with
  | nil => exact Or.inl ⟨[], st, .nil st⟩
  | cons name names ih =>
    rcases hask : r.ask st name with ⟨e | value, st'⟩
    · exact Or.inr ⟨[], name, names, [], st, e, st', rfl, .nil st, hask⟩
    · rcases ih st' with ⟨values, st₁, h⟩ | ⟨before, n, after, values, st₁, e, st₂, rfl, h, hfail⟩
      · exact Or.inl ⟨value :: values, st₁, .cons hask h⟩
      · exact Or.inr ⟨name :: before, n, after, value :: values, st₁, e, st₂, rfl, .cons hask h, hfail⟩

/-- A resolver that never fails answers every list of names. -/
theorem NeverFails.answers (hr : r.NeverFails) (st : σ) (names : List Text) :
    ∃ values st', r.Answers st names values st' := by
  rcases answers_or_fails r st names with h | ⟨_, name, _, _, st₁, e, st₂, _, _, hfail⟩
  · exact h
  · obtain ⟨value, st', hask⟩ := hr st₁ name
    rw [hask] at hfail
    cases hfail

/-- A resolver without failures of its own never fails. -/
theorem neverFails_of_empty (r : Resolver σ Empty) : r.NeverFails := by
  intro st name
  rcases hask : r.ask st name with ⟨e | value, st'⟩
  · exact e.elim
  · exact ⟨value, st', rfl⟩

end Resolver

end Template
