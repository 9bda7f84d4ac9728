import ReviewPipeline.Proofs.Inversion

/-!
# Results That Agree

Two chains run side by side agree when both end well, with answers in a given relation, or both
fail with the same error. The rules follow the chains link by link, so agreement of two operations
comes from agreement of the reads and writes that they are made of.
-/

namespace ReviewPipeline

variable {ε α β γ δ : Type} {R : α → β → Prop} {S : γ → δ → Prop}

/-- Both results are answers, and these are in relation, or both are the same error. -/
inductive Agree (R : α → β → Prop) : Except ε α → Except ε β → Prop
  /-- Both ended well. -/
  | ok {a : α} {b : β} (h : R a b) : Agree R (.ok a) (.ok b)
  /-- Both failed in the same way. -/
  | error (e : ε) : Agree R (.error e) (.error e)

namespace Agree

theorem of_eq {x y : Except ε α} (h : x = y) : Agree (· = ·) x y := by
  subst h
  cases x with
  | ok a => exact .ok rfl
  | error e => exact .error e

/-- Failures that agree are the same. -/
theorem eq_of_error {e e' : ε} (h : Agree R (.error e) (.error e')) : e = e' := by
  cases h
  rfl

/-- Chains agree if their first parts do and the rests do on related answers. -/
theorem bind {x : Except ε α} {y : Except ε β} {f : α → Except ε γ} {g : β → Except ε δ}
    (h : Agree R x y) (hrest : ∀ a b, R a b → Agree S (f a) (g b)) :
    Agree S (x >>= f) (y >>= g) := by
  cases h with
  | ok h => exact hrest _ _ h
  | error e => exact .error e

/-- Results agree on their answers as the answers that they are. -/
theorem and_eq {x : Except ε α} {y : Except ε β} (h : Agree R x y) :
    Agree (fun a b => R a b ∧ x = .ok a ∧ y = .ok b) x y := by
  cases h with
  | ok h => exact .ok ⟨h, rfl, rfl⟩
  | error e => exact .error e

/-- Chains with the same first part agree if their rests do. -/
theorem bind_same {x : Except ε α} {f : α → Except ε γ} {g : α → Except ε δ}
    (hrest : ∀ a, Agree S (f a) (g a)) : Agree S (x >>= f) (x >>= g) := by
  refine (of_eq rfl).bind ?_
  rintro a _ rfl
  exact hrest a

theorem mono {R' : α → β → Prop} {x : Except ε α} {y : Except ε β} (h : Agree R x y)
    (hmono : ∀ a b, R a b → R' a b) : Agree R' x y := by
  cases h with
  | ok h => exact .ok (hmono _ _ h)
  | error e => exact .error e

/-- Results behind the same guard agree if they do once it is passed. -/
theorem guard {p q : Prop} [Decidable p] [Decidable q] {x : Except ε α} {y : Except ε β} {e : ε}
    (hguard : p ↔ q) (h : Agree R x y) :
    Agree R (if p then .error e else x) (if q then .error e else y) := by
  by_cases hp : p
  · rw [if_pos hp, if_pos (hguard.1 hp)]
    exact .error e
  · rwa [if_neg hp, if_neg fun hq => hp (hguard.2 hq)]

theorem map {x : Except ε α} {y : Except ε β} {f : α → γ} {g : β → δ} (h : Agree R x y)
    (hmap : ∀ a b, R a b → S (f a) (g b)) : Agree S (x.map f) (y.map g) := by
  cases h with
  | ok h => exact .ok (hmap _ _ h)
  | error e => exact .error e

/-- Results that become equal under maps agree up to what the maps forget. -/
theorem of_map_eq {x : Except ε α} {y : Except ε β} {f : α → γ} {g : β → γ}
    (h : x.map f = y.map g) : Agree (fun a b => f a = g b) x y := by
  cases x with
  | ok a =>
    cases y with
    | ok b => exact .ok (Except.ok.inj h)
    | error e => cases h
  | error e =>
    cases y with
    | ok b => cases h
    | error e' =>
      cases h
      exact .error e

/-- Results that agree become equal under maps that forget the difference. -/
theorem map_eq {x : Except ε α} {y : Except ε β} {f : α → γ} {g : β → γ} (h : Agree R x y)
    (hmap : ∀ a b, R a b → f a = g b) : x.map f = y.map g := by
  cases h with
  | ok h => exact congrArg Except.ok (hmap _ _ h)
  | error e => rfl

end Agree

end ReviewPipeline
