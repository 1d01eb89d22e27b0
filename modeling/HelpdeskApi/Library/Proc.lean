/-
Module: HelpdeskApi.Library.Proc
Layer: Library
Purpose: Programs over a signature of calls. A program is a tree: it is done with a value, or it makes a
  call and goes on with whatever the call answers. The same tree is run in one piece or one call at a
  time, so that a function of the source is translated once and every semantics reads that translation.
Trusted boundary: none
Main exports: Signature, Proc, Proc.ask
-/
import Mathlib.Logic.Basic

namespace Txn

/-- The calls a program may make, and the type each of them answers with. -/
structure Signature where
  Call : Type
  Reply : Call → Type

/-- A program over a signature. -/
inductive Proc (S : Signature) (α : Type) where
  | done (a : α)
  | call (c : S.Call) (next : S.Reply c → Proc S α)

namespace Proc

variable {S : Signature} {α β : Type}

/-- Make one call and answer with its reply. -/
@[simp] def ask (c : S.Call) : Proc S (S.Reply c) :=
  .call c .done

/-- Run `p`, then the program its value selects. -/
protected def bind : Proc S α → (α → Proc S β) → Proc S β
  | .done a, f => f a
  | .call c next, f => .call c fun r => (next r).bind f

instance : Monad (Proc S) where
  pure := .done
  bind := Proc.bind

@[simp] theorem pure_eq_done (a : α) : (pure a : Proc S α) = .done a := rfl

@[simp] theorem done_bind (a : α) (f : α → Proc S β) : (Proc.done a >>= f) = f a := rfl

@[simp] theorem call_bind (c : S.Call) (next : S.Reply c → Proc S α) (f : α → Proc S β) :
    (Proc.call c next >>= f) = .call c fun r => next r >>= f := rfl

@[simp] theorem map_done (f : α → β) (a : α) : (f <$> (.done a : Proc S α)) = .done (f a) := rfl

@[simp] theorem map_call (f : α → β) (c : S.Call) (next : S.Reply c → Proc S α) :
    (f <$> Proc.call c next) = .call c fun r => f <$> next r := rfl

end Proc

end Txn
