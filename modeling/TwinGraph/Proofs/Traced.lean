import TwinGraph.Event

/-!
# Sequences of traced calls

Traced calls obey the laws of a monad.  What a sequence of calls has recorded when it ends follows
from what each call of the sequence has: the calls before the one that ends it have succeeded.
-/

namespace TwinGraph
namespace Traced

variable {ε ε' α β : Type}

theorem map_eq (change : α → β) (call : Traced ε α) :
    change <$> call = ⟨call.outcome.map change, call.events⟩ := by
  obtain ⟨outcome, events⟩ := call
  cases outcome with
  | ok result =>
    have joined : change <$> (⟨.ok result, events⟩ : Traced ε α) =
        ⟨.ok (change result), events ++ []⟩ := rfl
    rw [joined, List.append_nil]
    rfl
  | error error => rfl

@[simp]
theorem outcome_map (change : α → β) (call : Traced ε α) :
    (change <$> call).outcome = call.outcome.map change := by
  rw [map_eq]

@[simp]
theorem events_map (change : α → β) (call : Traced ε α) :
    (change <$> call).events = call.events := by
  rw [map_eq]

theorem bind_assoc' {γ : Type} (call : Traced ε α) (next : α → Traced ε β)
    (last : β → Traced ε γ) :
    (call >>= next) >>= last = call >>= fun result => next result >>= last := by
  cases first : call.outcome with
  | error error =>
    rw [bind_of_error next first, bind_of_error _ first]
    exact bind_of_error last rfl
  | ok result =>
    rw [bind_of_ok next first, bind_of_ok _ first]
    cases second : (next result).outcome with
    | error error =>
      rw [bind_of_error last second]
      exact bind_of_error last rfl
    | ok middle =>
      rw [bind_of_ok last second]
      exact (bind_of_ok last rfl).trans (by rw [List.append_assoc])

instance : LawfulMonad (Traced ε) := LawfulMonad.mk' _
  (fun call => by
    obtain ⟨outcome, events⟩ := call
    rw [map_eq]
    cases outcome <;> rfl)
  (fun _ _ => rfl)
  bind_assoc'

/-- How a call ends: what holds of its error and its events, or of its result and its events. -/
def Ends (call : Traced ε α) (refused : ε → List Event → Prop)
    (done : α → List Event → Prop) : Prop :=
  match call.outcome with
  | .ok result => done result call.events
  | .error error => refused error call.events

variable {call : Traced ε α} {refused : ε → List Event → Prop} {done : α → List Event → Prop}

theorem Ends.of_ok {result : α} (ends : call.Ends refused done)
    (made : call.outcome = .ok result) : done result call.events := by
  simpa only [Ends, made] using ends

theorem Ends.of_error {error : ε} (ends : call.Ends refused done)
    (failed : call.outcome = .error error) : refused error call.events := by
  simpa only [Ends, failed] using ends

theorem Ends.mono {refused' : ε → List Event → Prop} {done' : α → List Event → Prop}
    (ends : call.Ends refused done)
    (failure : ∀ error events, refused error events → refused' error events)
    (success : ∀ result events, done result events → done' result events) :
    call.Ends refused' done' := by
  unfold Ends at ends ⊢
  split at ends
  · exact success _ _ ends
  · exact failure _ _ ends

theorem ends_silent {outcome : Except ε α}
    (failure : ∀ error, outcome = .error error → refused error [])
    (success : ∀ result, outcome = .ok result → done result []) :
    (silent outcome).Ends refused done := by
  cases outcome with
  | ok result => exact success result rfl
  | error error => exact failure error rfl

/-- A call that records nothing when it succeeds leaves it to the next one what is recorded. -/
theorem Ends.bind {next : α → Traced ε β} {done : β → List Event → Prop}
    (first : call.Ends refused fun _ events => events = [])
    (rest : ∀ result, call.outcome = .ok result → (next result).Ends refused done) :
    (call >>= next).Ends refused done := by
  cases outcome : call.outcome with
  | error error =>
    rw [bind_of_error next outcome]
    exact first.of_error outcome
  | ok result =>
    rw [bind_of_ok next outcome, first.of_ok outcome, List.nil_append]
    exact rest result outcome

theorem Ends.map {change : α → β} {done : β → List Event → Prop}
    (ends : call.Ends refused fun result => done (change result)) :
    (change <$> call).Ends refused done := by
  rw [map_eq]
  obtain ⟨outcome, events⟩ := call
  cases outcome with
  | ok result => exact ends
  | error error => exact ends

theorem Ends.mapError {tell : ε → ε'} {refused : ε' → List Event → Prop}
    (ends : call.Ends (fun error => refused (tell error)) done) :
    (call.mapError tell).Ends refused done := by
  obtain ⟨outcome, events⟩ := call
  cases outcome with
  | ok result => exact ends
  | error error => exact ends

end Traced
end TwinGraph
