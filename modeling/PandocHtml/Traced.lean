import PandocHtml.Notice

/-!
# Traced computations

A computation that reports what it does, in order, and ends in a value or a fault.  What was
reported before a fault stays reported.  Besides notices a trace holds the calls of link and code
hooks that ask to be recorded.
-/

namespace PandocHtml

inductive Event where
  | notice (n : Notice)
  /-- A recorded call of the link hook; no inner content for a link that shows its own address. -/
  | linkCall (url : Json) (attrs : AttrMap) (inner : Option (List Inline))
  | codeCall (attr : Attr) (text : Json)

structure Traced (α : Type) where
  events : List Event
  outcome : Except Fault α

namespace Traced

variable {α β γ : Type}

def pure (a : α) : Traced α := ⟨[], .ok a⟩

def fail (f : Fault) : Traced α := ⟨[], .error f⟩

def report (e : Event) : Traced Unit := ⟨[e], .ok ()⟩

def note (n : Notice) : Traced Unit := report (.notice n)

def bind (x : Traced α) (f : α → Traced β) : Traced β :=
  match x.outcome with
  | .ok a => ⟨x.events ++ (f a).events, (f a).outcome⟩
  | .error e => ⟨x.events, .error e⟩

instance : Monad Traced where
  pure := Traced.pure
  bind := Traced.bind

def ofExcept : Except Fault α → Traced α
  | .ok a => Traced.pure a
  | .error f => fail f

instance : MonadLift (Except Fault) Traced where
  monadLift := ofExcept

def notices (x : Traced α) : List Notice :=
  x.events.filterMap fun
    | .notice n => some n
    | _ => none

def calls (x : Traced α) : List Event :=
  x.events.filter fun
    | .notice _ => false
    | _ => true

/-! ### Laws -/

@[simp] theorem pure_events (a : α) : (Pure.pure a : Traced α).events = [] := rfl

@[simp] theorem pure_outcome (a : α) : (Pure.pure a : Traced α).outcome = .ok a := rfl

@[simp] theorem pure_bind' (a : α) (f : α → Traced β) : (Pure.pure a : Traced α) >>= f = f a := rfl

@[simp] theorem bind_pure' (x : Traced α) : x >>= (Pure.pure : α → Traced α) = x := by
  obtain ⟨events, outcome⟩ := x
  cases outcome with
  | error e => rfl
  | ok a =>
    show (⟨events ++ [], .ok a⟩ : Traced α) = _
    rw [List.append_nil]

theorem bind_assoc' (x : Traced α) (f : α → Traced β) (g : β → Traced γ) :
    x >>= f >>= g = x >>= fun a => f a >>= g := by
  obtain ⟨events, outcome⟩ := x
  cases outcome with
  | error e => rfl
  | ok a =>
    show Traced.bind ⟨events ++ (f a).events, (f a).outcome⟩ g
      = ⟨events ++ (Traced.bind (f a) g).events, (Traced.bind (f a) g).outcome⟩
    unfold Traced.bind
    cases (f a).outcome
    · rfl
    · simp only [List.append_assoc]

theorem ok_bind (events : List Event) (a : α) (f : α → Traced β) :
    (⟨events, .ok a⟩ : Traced α) >>= f = ⟨events ++ (f a).events, (f a).outcome⟩ := rfl

theorem outcome_bind (x : Traced α) (f : α → Traced β) :
    (x >>= f).outcome = x.outcome >>= fun a => (f a).outcome := by
  obtain ⟨events, outcome⟩ := x
  cases outcome <;> rfl

theorem outcome_lift (x : Except Fault α) : (liftM x : Traced α).outcome = x := by
  cases x <;> rfl

instance : LawfulMonad Traced :=
  LawfulMonad.mk' Traced bind_pure' pure_bind' bind_assoc'

end Traced

end PandocHtml
