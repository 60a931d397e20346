import Turnstile.Proofs.Policy.Engine
set_option autoImplicit false

/-! How evaluations end, whatever the engine makes of an input. Rows decide only if they are one row
with a boolean as its result, or none. A caller that has given up before the evaluation goes first,
then what keeps the engine from rows, then a caller that has given up meanwhile, then the rows. -/

namespace Turnstile.Policy

/-- What rows decide: no row denies, and a single row decides by the boolean that it binds. -/
inductive Rows.Decides : Rows → Bool → Prop where
  | nothing : Decides [] false
  | single {row : Bindings} {allowed : Bool}
      (bound : Json.lookup? resultBinding row = some (.bool allowed)) : Decides [row] allowed

/-- Rows that decide nothing: several of them, or one that binds no boolean. -/
inductive Rows.Undecided : Rows → Prop where
  | several (first second : Bindings) (rest : Rows) : Undecided (first :: second :: rest)
  | missing {row : Bindings} (unbound : Json.lookup? resultBinding row = none) : Undecided [row]
  | notBoolean {row : Bindings} {value : Json}
      (bound : Json.lookup? resultBinding row = some value)
      (other : ∀ allowed, value ≠ .bool allowed) : Undecided [row]

namespace Rows

theorem decision_of_decides {rows : Rows} {allowed : Bool} (decides : Decides rows allowed) :
    decision rows resultBinding = .ok allowed := by
  cases decides with
  | nothing => rfl
  | single bound => simp only [decision, bound]

theorem decision_of_undecided {rows : Rows} (undecided : Undecided rows) :
    ∃ message, decision rows resultBinding = .error (.decision message) := by
  cases undecided with
  | several first second rest => exact ⟨_, rfl⟩
  | missing unbound =>
      simp only [decision, unbound]
      exact ⟨_, rfl⟩
  | notBoolean bound other =>
      simp only [decision, bound]
      exact ⟨_, rfl⟩

theorem decides_or_undecided (rows : Rows) : (∃ allowed, Decides rows allowed) ∨ Undecided rows := by
  match rows with
  | [] => exact Or.inl ⟨false, .nothing⟩
  | first :: second :: rest => exact Or.inr (.several first second rest)
  | [row] =>
      cases bound : Json.lookup? resultBinding row with
      | none => exact Or.inr (.missing bound)
      | some value =>
          by_cases boolean : ∃ allowed, value = .bool allowed
          · obtain ⟨allowed, rfl⟩ := boolean
            exact Or.inl ⟨allowed, .single bound⟩
          · exact Or.inr (.notBoolean bound fun allowed same => boolean ⟨allowed, same⟩)

theorem not_decides_of_undecided {rows : Rows} (undecided : Undecided rows) (allowed : Bool) :
    ¬ Decides rows allowed := by
  intro decides
  obtain ⟨message, failed⟩ := decision_of_undecided undecided
  rw [decision_of_decides decides] at failed
  cases failed

theorem decides_true_iff (rows : Rows) :
    Decides rows true ↔
      ∃ row, rows = [row] ∧ Json.lookup? resultBinding row = some (.bool true) := by
  constructor
  · intro decides
    cases decides with
    | single bound => exact ⟨_, rfl, bound⟩
  · rintro ⟨row, rfl, bound⟩
    exact .single bound

theorem decides_false_iff (rows : Rows) :
    Decides rows false ↔
      rows = [] ∨ ∃ row, rows = [row] ∧ Json.lookup? resultBinding row = some (.bool false) := by
  constructor
  · intro decides
    cases decides with
    | nothing => exact Or.inl rfl
    | single bound => exact Or.inr ⟨_, rfl, bound⟩
  · rintro (rfl | ⟨row, rfl, bound⟩)
    · exact .nothing
    · exact .single bound

theorem Decides.unique {rows : Rows} {allowed other : Bool} (decides : Decides rows allowed)
    (decidesOther : Decides rows other) : allowed = other := by
  have decided := decision_of_decides decides
  rw [decision_of_decides decidesOther] at decided
  exact (Except.ok.inj decided).symm

end Rows

namespace Standing

theorem check_of (isCancelled isExpired : Bool) :
    (of isCancelled isExpired).check =
      if isCancelled = true then .error .cancelled
      else if isExpired = true then .error .deadlineExceeded
      else .ok () := by
  cases isCancelled with
  | true => rfl
  | false => cases isExpired <;> rfl

end Standing

/-- How an evaluation ends, by what comes first. -/
inductive Ending (context : Context) (module : String) (evaluated : Except String Rows) :
    Except Error Bool → Prop where
  | goneBefore {error : Error} (gone : context.before.check = .error error) :
      Ending context module evaluated (.error error)
  | fault {cause : String} (waited : context.before = .live) (failed : evaluated = .error cause) :
      Ending context module evaluated (.error (.eval (module ++ ": " ++ cause)))
  | goneAfter {error : Error} {rows : Rows} (waited : context.before = .live)
      (found : evaluated = .ok rows) (gone : context.after.check = .error error) :
      Ending context module evaluated (.error error)
  | undecided {rows : Rows} (message : String) (live : context.Live)
      (found : evaluated = .ok rows) (undecided : Rows.Undecided rows) :
      Ending context module evaluated (.error (.decision message))
  | decided {rows : Rows} {allowed : Bool} (live : context.Live)
      (found : evaluated = .ok rows) (decides : Rows.Decides rows allowed) :
      Ending context module evaluated (.ok allowed)

namespace PreparedQuery

/-- Every evaluation ends in one of these ways. -/
theorem ending_decide (prepared : PreparedQuery) (input : Input) (context : Context) :
    Ending context prepared.module (prepared.evaluate context.wallSeconds input)
      (prepared.decide input context) := by
  unfold decide eval run
  cases before : context.before.check with
  | error error => exact .goneBefore before
  | ok _ =>
      have waited := (Standing.check_eq_ok_iff _).mp before
      cases evaluated : prepared.evaluate context.wallSeconds input with
      | error cause => exact .fault waited rfl
      | ok rows =>
          cases after : context.after.check with
          | error error => exact .goneAfter waited rfl after
          | ok _ =>
              have live : context.Live := ⟨waited, (Standing.check_eq_ok_iff _).mp after⟩
              rcases Rows.decides_or_undecided rows with ⟨allowed, decides⟩ | undecided
              · simp only [Rows.decision_of_decides decides]
                exact .decided live rfl decides
              · obtain ⟨message, failed⟩ := Rows.decision_of_undecided undecided
                simp only [failed]
                exact .undecided message live rfl undecided

end PreparedQuery

end Turnstile.Policy
