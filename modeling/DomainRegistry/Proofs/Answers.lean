import DomainRegistry.Admission.Traced

/-!
When computations that may fail succeed. Main statements: a sequence succeeds exactly when each of
its parts does, and a check does when its condition for rejection fails.
-/

namespace DomainRegistry

theorem eq_ok_of_toOption {ε α : Type} {x : Except ε α} {a : α} (found : x.toOption = some a) :
    x = .ok a := by
  cases x with
  | error e => cases found
  | ok b => cases found; rfl

theorem bind_eq_ok {ε α β : Type} {x : Except ε α} {f : α → Except ε β} {b : β} :
    x >>= f = .ok b ↔ ∃ a, x = .ok a ∧ f a = .ok b := by
  cases x with
  | error e => simp [bind, Except.bind]
  | ok a => simp [bind, Except.bind]

theorem bind_eq_error {ε α β : Type} {x : Except ε α} {f : α → Except ε β} {e : ε} :
    x >>= f = .error e ↔ x = .error e ∨ ∃ a, x = .ok a ∧ f a = .error e := by
  cases x with
  | error e => simp [bind, Except.bind]
  | ok a => simp [bind, Except.bind]

theorem guard_eq_ok {ε β : Type} {x : Except ε Unit} {f : Unit → Except ε β} {b : β} :
    x >>= f = .ok b ↔ x = .ok () ∧ f () = .ok b := by
  cases x <;> simp [bind, Except.bind]

theorem guard_eq_error {ε β : Type} {x : Except ε Unit} {f : Unit → Except ε β} {e : ε} :
    x >>= f = .error e ↔ x = .error e ∨ x = .ok () ∧ f () = .error e := by
  cases x <;> simp [bind, Except.bind]

theorem forM_eq_ok {ε α : Type} {check : α → Except ε Unit} {as : List α} :
    as.forM check = .ok () ↔ ∀ a ∈ as, check a = .ok () := by
  induction as with
  | nil => simp [pure, Except.pure]
  | cons a as ih =>
    rw [List.forM, guard_eq_ok, ih, List.forall_mem_cons]

theorem mapM_eq_some {α β : Type} {read : α → Option β} {as : List α} {bs : List β}
    (each : as.map read = bs.map some) : as.mapM read = some bs := by
  induction as generalizing bs with
  | nil =>
    cases bs with
    | nil => rfl
    | cons b bs => cases each
  | cons a as ih =>
    cases bs with
    | nil => cases each
    | cons b bs =>
      obtain ⟨first, rest⟩ := List.cons.inj each
      rw [List.mapM_cons, first, ih rest]
      rfl

theorem forM_error {ε α : Type} {P : ε → Prop} {check : α → Except ε Unit} {as : List α} {e : ε}
    (each : ∀ a e, check a = .error e → P e) (rejected : as.forM check = .error e) : P e := by
  induction as with
  | nil => cases rejected
  | cons a as ih =>
    rw [List.forM] at rejected
    rcases guard_eq_error.mp rejected with first | ⟨_, rest⟩
    · exact each a e first
    · exact ih rest

theorem ite_error_eq_ok {ε α : Type} {p : Prop} [Decidable p] {e : ε} {x : Except ε α} {b : α} :
    (if p then .error e else x) = .ok b ↔ ¬p ∧ x = .ok b := by
  by_cases h : p
  · simp [h]
  · simp [h]

namespace Traced

variable {α β : Type}

theorem result_bind_eq_ok {x : Traced α} {f : α → Traced β} {b : β} :
    (x >>= f).result = .ok b ↔ ∃ a, x.result = .ok a ∧ (f a).result = .ok b := by
  change (Traced.bind x f).result = .ok b ↔ _
  unfold Traced.bind
  cases x.result with
  | error r => simp
  | ok a => simp

theorem result_bind_eq_error {x : Traced α} {f : α → Traced β} {r : Rejection} :
    (x >>= f).result = .error r ↔
      x.result = .error r ∨ ∃ a, x.result = .ok a ∧ (f a).result = .error r := by
  change (Traced.bind x f).result = .error r ↔ _
  unfold Traced.bind
  cases x.result with
  | error r => simp
  | ok a => simp

theorem result_step (s : AdmissionStep) (answer : Except Rejection α) :
    (step s answer).result = answer := by
  cases answer <;> rfl

theorem result_stepUnless_eq_ok {superuser : Bool} {s : AdmissionStep}
    {answer : Except Rejection Unit} {u : Unit} :
    (stepUnless superuser s answer).result = .ok u ↔ superuser = true ∨ answer = .ok u := by
  cases superuser with
  | true => simp [stepUnless]
  | false => simp [stepUnless, result_step]

end Traced

end DomainRegistry
