/-
  Attempts.

  An attempt ends with a value or a fault, and in both cases has told some events on the way.
  Attempts are put together in sequence: the first fault ends the whole, and what was told up to
  that point stays told.
-/
import PartProgram.Event

namespace PartProgram

/-- A computation that tells events and may fail. -/
structure Attempt (α : Type) where
  events : List Event
  result : Except Fault α

namespace Attempt

instance : Monad Attempt where
  pure a := ⟨[], .ok a⟩
  map f x := ⟨x.events, f <$> x.result⟩
  bind x f :=
    match x.result with
    | .ok a =>
      let y := f a
      ⟨x.events ++ y.events, y.result⟩
    | .error fault => ⟨x.events, .error fault⟩

@[ext]
theorem ext {α : Type} {x y : Attempt α} (events : x.events = y.events)
    (result : x.result = y.result) : x = y := by
  cases x; cases y; simp_all

/-- A value put behind an attempt changes neither its events nor whether it fails. -/
theorem bind_pure_eq_map {α β : Type} (f : α → β) (x : Attempt α) :
    (x >>= fun a => pure (f a)) = f <$> x := by
  obtain ⟨events, result⟩ := x
  cases result with
  | error fault => rfl
  | ok a => exact ext (List.append_nil events) rfl

/-- Attempts in sequence tell and give the same however they are bracketed. -/
theorem bind_bind {α β γ : Type} (x : Attempt α) (f : α → Attempt β) (g : β → Attempt γ) :
    x >>= f >>= g = x >>= fun a => f a >>= g := by
  obtain ⟨events, result⟩ := x
  cases result with
  | error fault => rfl
  | ok a =>
    show bind (Attempt.mk (events ++ (f a).events) (f a).result) g = _
    generalize hy : f a = y
    obtain ⟨more, outcome⟩ := y
    cases outcome with
    | error fault => simp [bind, hy]
    | ok b => simp [bind, hy, List.append_assoc]

instance : LawfulMonad Attempt :=
  LawfulMonad.mk' Attempt
    (fun x => ext rfl (id_map x.result)) (fun _ _ => rfl) bind_bind
    (fun _ _ => rfl) (fun _ _ => rfl) (fun _ _ => rfl) bind_pure_eq_map (fun _ _ => rfl)

/-- The attempt that fails at once. -/
def fail {α : Type} (fault : Fault) : Attempt α := ⟨[], .error fault⟩

/-- The attempt that tells one event. -/
def report (event : Event) : Attempt Unit := ⟨[event], .ok ()⟩

/-- The silent attempt with a given outcome. -/
def ofExcept {α : Type} (outcome : Except Fault α) : Attempt α := ⟨[], outcome⟩

instance : MonadLift (Except Fault) Attempt := ⟨ofExcept⟩

/-- `x`, but a malformed line is handed to `handle`, after what `x` told. -/
def orOnFormatError {α : Type} (x : Attempt α) (handle : FormatError → Attempt α) : Attempt α :=
  match x.result with
  | .error (.format e) =>
    let y := handle e
    ⟨x.events ++ y.events, y.result⟩
  | _ => x

end Attempt

end PartProgram
