import Keychord.Platform

/-!
# Asking for the platform

Reading a shortcut may have to know the platform, and then asks for it. An inquiry is a
computation that may ask; what it asks and how often is part of the value, so that one can
speak about the answers of a detector that changes its mind between two questions.
-/
namespace Keychord

/-- A computation that may ask for the platform on its way to a result. -/
inductive Inquiry (α : Type) where
  | done (a : α)
  | ask (next : Platform → Inquiry α)

namespace Inquiry

variable {α β : Type}

def bind : Inquiry α → (α → Inquiry β) → Inquiry β
  | done a, f => f a
  | ask next, f => ask fun p => (next p).bind f

instance : Monad Inquiry where
  pure := done
  bind := bind

/-- Asks once and gives the answer. -/
def platform : Inquiry Platform := ask done

/-- The result on a platform that does not change. -/
def on (p : Platform) : Inquiry α → α
  | done a => a
  | ask next => (next p).on p

/-- How often a platform that does not change is asked. -/
def asks (p : Platform) : Inquiry α → Nat
  | done _ => 0
  | ask next => (next p).asks p + 1

/-- The result when every question is put to a detector. -/
def via {m : Type → Type} [Monad m] (detect : m Platform) : Inquiry α → m α
  | done a => pure a
  | ask next => do (next (← detect)).via detect

/-- The result when the questions are answered in turn by `answers`, from the `n`-th answer
on, and the number of the first answer not used. -/
def runFrom (answers : Nat → Platform) : Nat → Inquiry α → α × Nat
  | n, done a => (a, n)
  | n, ask next => (next (answers n)).runFrom answers (n + 1)

/-- The result when the questions are answered in turn, and how many were asked. -/
def run (answers : Nat → Platform) (q : Inquiry α) : α × Nat := q.runFrom answers 0

/-- Whatever the answers are, the result is one of these. -/
def All (P : α → Prop) : Inquiry α → Prop
  | done a => P a
  | ask next => ∀ p, (next p).All P

@[simp] theorem pure_eq_done (a : α) : (pure a : Inquiry α) = done a := rfl

@[simp] theorem done_bind (a : α) (f : α → Inquiry β) : (done a >>= f) = f a := rfl

@[simp] theorem ask_bind (next : Platform → Inquiry α) (f : α → Inquiry β) :
    (ask next >>= f) = ask fun p => next p >>= f := rfl

@[simp] theorem on_done (p : Platform) (a : α) : (done a).on p = a := rfl

@[simp] theorem on_bind (p : Platform) (q : Inquiry α) (f : α → Inquiry β) :
    (q >>= f).on p = (f (q.on p)).on p := by
  induction q with
  | done a => rfl
  | ask next ih => exact ih p

@[simp] theorem asks_done (p : Platform) (a : α) : (done a).asks p = 0 := rfl

@[simp] theorem asks_bind (p : Platform) (q : Inquiry α) (f : α → Inquiry β) :
    (q >>= f).asks p = q.asks p + (f (q.on p)).asks p := by
  induction q with
  | done a => simp [on]
  | ask next ih =>
      change (next p >>= f).asks p + 1 = (next p).asks p + 1 + (f ((next p).on p)).asks p
      rw [ih p]; omega

theorem All.bind {P : β → Prop} {q : Inquiry α} {f : α → Inquiry β} (h : ∀ a, (f a).All P) :
    (q >>= f).All P := by
  induction q with
  | done a => exact h a
  | ask next ih => exact ih

theorem All.map {P : α → Prop} {Q : β → Prop} {q : Inquiry α} {f : α → β} (h : q.All P)
    (hf : ∀ a, P a → Q (f a)) : (f <$> q).All Q := by
  induction q with
  | done a => exact hf a h
  | ask next ih => exact fun p => ih p (h p)

instance : LawfulMonad Inquiry :=
  LawfulMonad.mk' Inquiry
    (fun q => by
      induction q with
      | done a => rfl
      | ask next ih => exact congrArg ask (funext ih))
    (fun _ _ => rfl)
    (fun q f g => by
      induction q with
      | done a => rfl
      | ask next ih => exact congrArg ask (funext ih))

@[simp] theorem done_map (f : α → β) (a : α) : f <$> (done a : Inquiry α) = done (f a) := rfl

@[simp] theorem ask_map (f : α → β) (next : Platform → Inquiry α) :
    f <$> ask next = ask fun p => f <$> next p := rfl

@[simp] theorem on_map (p : Platform) (f : α → β) (q : Inquiry α) :
    (f <$> q).on p = f (q.on p) := by
  rw [← bind_pure_comp, on_bind]
  rfl

section Via

variable {m : Type → Type} [Monad m] [LawfulMonad m] (detect : m Platform)

theorem via_pure (p : Platform) (q : Inquiry α) : q.via (pure p : m Platform) = pure (q.on p) := by
  induction q with
  | done a => rfl
  | ask next ih => exact (pure_bind p _).trans (ih p)

theorem via_map (f : α → β) (q : Inquiry α) : (f <$> q).via detect = f <$> q.via detect := by
  induction q with
  | done a => exact (map_pure f a).symm
  | ask next ih =>
      simp only [ask_map, via, ih, map_bind]

end Via

theorem runFrom_map (answers : Nat → Platform) (n : Nat) (f : α → β) (q : Inquiry α) :
    (f <$> q).runFrom answers n = (q.runFrom answers n).map f id := by
  induction q generalizing n with
  | done a => rfl
  | ask next ih => exact ih _ (n + 1)

@[simp] theorem run_map (answers : Nat → Platform) (f : α → β) (q : Inquiry α) :
    (f <$> q).run answers = (q.run answers).map f id :=
  runFrom_map answers 0 f q

@[simp] theorem asks_map (p : Platform) (f : α → β) (q : Inquiry α) :
    (f <$> q).asks p = q.asks p := by
  rw [← bind_pure_comp, asks_bind]
  rfl

end Inquiry
end Keychord
