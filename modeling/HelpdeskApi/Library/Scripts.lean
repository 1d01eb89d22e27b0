/-
Module: HelpdeskApi.Library.Scripts
Layer: Library
Purpose: Programs that leave nothing to the store. Where what the store can answer to the calls of a program
  is settled beforehand, the program goes through one script of events: every trace of it is a beginning of
  the script, and run in one piece it does what the script says.
Trusted boundary: none
Main exports: Proc.Follows, Proc.Follows.bind, Proc.Follows.satisfies, Proc.Follows.run, Config.run_script
-/
import HelpdeskApi.Library.Handler

namespace Txn

namespace Proc

variable {S : Signature} {σ : Store S} {ctx : σ.Ctx} {α β : Type}

/-- The program makes exactly the calls of the script, with these outcomes, and ends with `a`. -/
def Follows (σ : Store S) (ctx : σ.Ctx) : Proc S α → List σ.Event → α → Prop
  | .done b, script, a => script = [] ∧ b = a
  | .call c next, script, a =>
      ∃ (o : Outcome S σ.Write σ.Key c) (rest : List σ.Event), script = ⟨c, o⟩ :: rest ∧
        (∀ o', σ.Plausible ctx ⟨c, o'⟩ → o' = o) ∧ (next o.reply).Follows σ ctx rest a

theorem follows_done (a : α) : (Proc.done a).Follows σ ctx [] a := ⟨rfl, rfl⟩

/-- A call with one possible outcome, and then what its reply selects. -/
theorem follows_call {c : S.Call} {next : S.Reply c → Proc S α} {o : Outcome S σ.Write σ.Key c}
    {script : List σ.Event} {a : α} (settled : ∀ o', σ.Plausible ctx ⟨c, o'⟩ → o' = o)
    (rest : (next o.reply).Follows σ ctx script a) : (Proc.call c next).Follows σ ctx (⟨c, o⟩ :: script) a :=
  ⟨o, script, rfl, settled, rest⟩

/-- Two programs in sequence. -/
theorem Follows.bind {p : Proc S α} {f : α → Proc S β} {script script' : List σ.Event} {a : α} {b : β}
    (first : p.Follows σ ctx script a) (rest : (f a).Follows σ ctx script' b) :
    (p >>= f).Follows σ ctx (script ++ script') b := by
  induction p generalizing script with
  | done a' =>
      obtain ⟨rfl, rfl⟩ := first
      exact rest
  | call c next ih =>
      obtain ⟨o, script, rfl, settled, later⟩ := first
      exact ⟨o, script ++ script', rfl, settled, ih o.reply later⟩

/-- Whatever happens, what has been done is a beginning of the script, and all of it where the program has
    come to its end. -/
theorem Follows.satisfies {p : Proc S α} {script : List σ.Event} {a : α} (follows : p.Follows σ ctx script a)
    (trace : List σ.Event) :
    p.Satisfies (σ.Plausible ctx) (fun t => t <+: trace ++ script) (fun t b => t = trace ++ script ∧ b = a) trace := by
  induction p generalizing script trace with
  | done b =>
      obtain ⟨rfl, rfl⟩ := follows
      exact ⟨(List.append_nil trace).symm, rfl⟩
  | call c next ih =>
      obtain ⟨o, script, rfl, settled, rest⟩ := follows
      intro o' produced
      cases settled o' produced
      rw [List.append_cons]
      exact ⟨List.prefix_append _ _, ih o.reply rest (trace ++ [⟨c, o⟩])⟩

/-- A handler that answers as the script says makes of the database what the script says. -/
theorem Follows.run {η : Handler S} {ctx' : η.Ctx} {p : Proc S α} {script : List σ.Event} {a : α}
    (follows : p.Follows σ ctx script a) (writesOf : σ.Event → List η.Write)
    (answers : ∀ e ∈ script, ∀ db, η.exec ctx' e.call db = some (e.outcome.reply, writesOf e)) (db : η.Db) :
    p.run η ctx' db = some (a, η.applyAll (script.flatMap writesOf) db) := by
  induction p generalizing script db with
  | done b =>
      obtain ⟨rfl, rfl⟩ := follows
      rfl
  | call c next ih =>
      obtain ⟨o, script, rfl, settled, rest⟩ := follows
      have first := answers ⟨c, o⟩ List.mem_cons_self db
      rw [run_call first, List.flatMap_cons, Handler.applyAll_append]
      exact ih o.reply rest (fun e member => answers e (List.mem_cons_of_mem _ member)) _

end Proc

namespace Config

open Transition

variable {A : App}

/-- A session whose calls come out as its script says whatever the others do can go through it. -/
theorem run_script {c : Config A} {i : Nat} {s : Session A} {p : Proc A.sig A.Out} {script : List A.store.Event}
    {a : A.Out} (found : c.sessions[i]? = some s) (running : s.status = .running p)
    (follows : p.Follows A.store (A.ctx s.job) script a)
    (available : ∀ e ∈ script, ∀ held db, e.outcome ∈ A.store.answers (A.ctx s.job) held e.call db) :
    ∃ history c', Run step c history c' ∧
      c'.sessions[i]? = some { s with trace := s.trace ++ script, status := .running (.done a) } ∧
      c'.db = A.store.applyAll (script.flatMap fun e => e.outcome.effects) c.db := by
  induction p generalizing c s script with
  | done b =>
      obtain ⟨rfl, rfl⟩ := follows
      refine ⟨[], c, .start, ?_, rfl⟩
      rw [List.append_nil, found, ← running]
  | call k next ih =>
      obtain ⟨o, script, rfl, settled, rest⟩ := follows
      obtain ⟨choice, answer⟩ := List.mem_iff_getElem?.mp
        (available _ List.mem_cons_self (c.heldByOthers i) (s.view c.db))
      have taken := (@Stepped.call A c i choice _ _ _ o found running answer).step
      let c₁ : Config A :=
        { c.put i (s.advance ⟨k, o⟩ (next o.reply)) with db := A.store.applyAll o.effects c.db }
      have at_i : c₁.sessions[i]? = some (s.advance ⟨k, o⟩ (next o.reply)) := by
        change (c.put i _).sessions[i]? = _
        rw [getElem?_put found, if_pos rfl]
      obtain ⟨history, c', run, there, result⟩ :=
        ih o.reply at_i rfl rest fun e later => available e (List.mem_cons_of_mem _ later)
      refine ⟨_, c', .cons taken run, ?_, ?_⟩
      · rw [there, Session.advance_trace, ← List.append_cons]
        rfl
      · rw [result, List.flatMap_cons, Store.applyAll_append]

end Config

end Txn
