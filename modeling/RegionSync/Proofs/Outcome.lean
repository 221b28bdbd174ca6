import Mathlib.Data.List.Forall2

/-!
# Outcomes

A computation that may fail gives a value or a fault.  What is said here holds
for faults of any kind: which outcomes a change of the value, a change of the
fault and a further computation can have, and that the changes of value and
fault do not get in each other's way.
-/

universe u v

namespace Except

variable
  {Fault Other : Type u}
  {Value Next Last : Type v}
  {outcome : Except Fault Value}

theorem bind_eq_ok_iff
    {next : Value → Except Fault Next}
    {result : Next} :
    outcome >>= next = .ok result ↔
      ∃ value, outcome = .ok value ∧ next value = .ok result := by
  cases outcome <;> simp [bind, Except.bind]

theorem map_eq_ok_iff
    {change : Value → Next}
    {result : Next} :
    outcome.map change = .ok result ↔
      ∃ value, outcome = .ok value ∧ change value = result := by
  cases outcome <;> simp [Except.map]

theorem map_eq_error_iff
    {change : Value → Next}
    {fault : Fault} :
    outcome.map change = .error fault ↔ outcome = .error fault := by
  cases outcome <;> simp [Except.map]

theorem mapError_eq_ok_iff
    {reword : Fault → Other}
    {value : Value} :
    outcome.mapError reword = .ok value ↔ outcome = .ok value := by
  cases outcome <;> simp [Except.mapError]

theorem mapError_eq_error_iff
    {reword : Fault → Other}
    {fault : Other} :
    outcome.mapError reword = .error fault ↔
      ∃ cause, outcome = .error cause ∧ reword cause = fault := by
  cases outcome <;> simp [Except.mapError]

theorem map_map
    (first : Value → Next)
    (second : Next → Last)
    (outcome : Except Fault Value) :
    (outcome.map first).map second =
      outcome.map (fun value => second (first value)) := by
  cases outcome <;> rfl

theorem mapError_map
    (change : Value → Next)
    (reword : Fault → Other)
    (outcome : Except Fault Value) :
    (outcome.mapError reword).map change =
      (outcome.map change).mapError reword := by
  cases outcome <;> rfl

/-- Two readings of one list that agree in each place agree altogether. -/
theorem forall₂_of_mapM_eq_ok
    {Item Part : Type v}
    {Agrees : Part → Value → Prop}
    {readValue : Item → Except Fault Value}
    {readPart : Item → Option Part}
    {items : List Item}
    {values : List Value}
    (each :
      ∀ item value,
        readValue item = .ok value →
          ∃ part, readPart item = some part ∧ Agrees part value)
    (read : items.mapM readValue = .ok values) :
    ∃ parts,
      items.mapM readPart = some parts ∧
        List.Forall₂ Agrees parts values := by
  induction items generalizing values with
  | nil =>
      obtain rfl := Except.ok.inj read
      exact ⟨[], rfl, .nil⟩
  | cons item rest ih =>
      rw [List.mapM_cons] at read
      rcases bind_eq_ok_iff.mp read with ⟨value, first, read⟩
      rcases bind_eq_ok_iff.mp read with ⟨others, below, result⟩
      obtain rfl := Except.ok.inj result
      rcases each item value first with ⟨part, here, agrees⟩
      rcases ih below with ⟨parts, found, all⟩
      exact ⟨part :: parts, by simp [here, found], .cons agrees all⟩

end Except
