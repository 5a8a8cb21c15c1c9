import Conformance.Fault

/-!
# Steps that may fail

A computation in steps gives an answer if and only if each of its steps does (`bind_eq_ok_iff`).
With the lemmas here such a computation is taken apart step by step, without a look at how the steps
are put together.
-/

namespace Conformance

variable {ε α β : Type}

@[simp] theorem ok_bind (a : α) (f : α → Except ε β) : (Except.ok a >>= f) = f a := rfl

@[simp] theorem error_bind (x : ε) (f : α → Except ε β) :
    ((Except.error x : Except ε α) >>= f) = .error x := rfl

@[simp] theorem pure_eq_ok_iff {a b : α} : (pure a : Except ε α) = .ok b ↔ a = b :=
  ⟨fun h => Except.ok.inj h, fun h => congrArg Except.ok h⟩

/-- Two steps give an answer where the first one does and the second one does with it. -/
theorem bind_eq_ok_iff {x : Except ε α} {f : α → Except ε β} {b : β} :
    (x >>= f) = .ok b ↔ ∃ a, x = .ok a ∧ f a = .ok b := by
  cases x with
  | error e => simp
  | ok a => simp

/-- Two steps fail where one of them does. -/
theorem bind_eq_error_iff {x : Except ε α} {f : α → Except ε β} {e : ε} :
    (x >>= f) = .error e ↔ x = .error e ∨ ∃ a, x = .ok a ∧ f a = .error e := by
  cases x with
  | error e => simp
  | ok a => simp

/-- Two computations that come to the same when their answers are mapped both fail alike, or both
give an answer. -/
theorem of_map_eq_map {γ : Type} {x : Except ε α} {y : Except ε β} {f : α → γ} {g : β → γ}
    (h : x.map f = y.map g) :
    (∃ e, x = .error e ∧ y = .error e) ∨ ∃ a b, x = .ok a ∧ y = .ok b ∧ f a = g b := by
  cases x with
  | error e =>
    cases y with
    | error e' => exact Or.inl ⟨e, rfl, congrArg Except.error (Except.error.inj h).symm⟩
    | ok b => cases h
  | ok a =>
    cases y with
    | error e' => cases h
    | ok b => exact Or.inr ⟨a, b, rfl, rfl, Except.ok.inj h⟩

/-- A computation has one answer. -/
theorem answer_unique {x : Except ε α} {a b : α} (ha : x = .ok a) (hb : x = .ok b) : a = b :=
  Except.ok.inj (ha.symm.trans hb)

namespace Outcome

@[simp] theorem orFault_ok (a : α) : orFault (.ok a) = .ok a := rfl

@[simp] theorem orFault_error (c : Complaint) :
    orFault (.error c : Outcome α) = .error (.complaint c) := rfl

/-- An answer stays an answer where complaints are faults. -/
@[simp] theorem orFault_eq_ok_iff {o : Outcome α} {a : α} : o.orFault = .ok a ↔ o = .ok a := by
  cases o <;> simp

/-- What is a fault where complaints are faults is a complaint. -/
theorem orFault_eq_error_iff {o : Outcome α} {f : Fault} :
    o.orFault = .error f ↔ ∃ c, o = .error c ∧ f = .complaint c := by
  cases o with
  | error c => simp [eq_comm]
  | ok a => simp

/-- An attribute is there where asking for it gives an answer. -/
theorem orMissing_eq_some_iff {o : Outcome α} {a : α} : o.orMissing = .ok (some a) ↔ o = .ok a := by
  cases o with
  | ok b => simp [orMissing]
  | error c => by_cases hc : c.isMissing = true <;> simp [orMissing, hc]

/-- An attribute is missing where asking for it gives a complaint that says so. -/
theorem orMissing_eq_none_iff {o : Outcome α} :
    o.orMissing = .ok none ↔ ∃ c, o = .error c ∧ c.isMissing = true := by
  cases o with
  | ok b => simp [orMissing]
  | error c => by_cases hc : c.isMissing = true <;> simp [orMissing, hc]

end Outcome

end Conformance
