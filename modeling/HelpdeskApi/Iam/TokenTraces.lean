/-
Module: HelpdeskApi.Iam.TokenTraces
Layer: Application
Purpose: What a request does to tokens, call by call, whatever the database answers it. A refresh finds a
  token and then either revokes its family or marks it and saves a successor, and it answers `Ok` exactly
  if it has saved one; a logout revokes the family of the token it has found.
Trusted boundary: none
Main exports: TokenStep, trail, Execution.presentedHash, Trail, EndsTrail, Execution.trail_spec
-/
import HelpdeskApi.Iam.Sessions
import HelpdeskApi.Iam.TokenRows

namespace Helpdesk.Iam

open Txn

/-- What one call does about tokens. -/
inductive TokenStep where
  | found (stored : RefreshToken)
  | rotated (tenantId : TenantId) (id : RefreshTokenId)
  | saved (token : RefreshToken)
  | revoked (tenantId : TenantId) (familyId : RefreshFamilyId)
deriving DecidableEq

def TokenStep.isRotated : TokenStep → Bool
  | .rotated _ _ => true
  | _ => false

def tokenStep? : repositories.autocommit.Event → Option TokenStep
  | ⟨.refreshTokensFindByHash _ _, o⟩ => o.reply.map .found
  | ⟨.refreshTokensMarkRotated tenantId id _, _⟩ => some (.rotated tenantId id)
  | ⟨.refreshTokensSave token, _⟩ => some (.saved token)
  | ⟨.refreshTokensRevokeFamily tenantId familyId _, _⟩ => some (.revoked tenantId familyId)
  | _ => none

/-- What a request has done about tokens so far. -/
def trail (trace : List repositories.autocommit.Event) : List TokenStep :=
  trace.filterMap tokenStep?

@[simp] theorem trail_nil : trail [] = [] := rfl

@[simp] theorem trail_append (trace : List repositories.autocommit.Event) (ev : repositories.autocommit.Event) :
    trail (trace ++ [ev]) = trail trace ++ (tokenStep? ev).toList := by
  simp only [trail, List.filterMap_append, List.filterMap_cons, List.filterMap_nil]
  cases tokenStep? ev <;> rfl

namespace Execution

/-- The token a request presents. -/
def refreshToken (e : Execution) : String :=
  match e.useCase with
  | .refreshTokens input => input.refreshToken
  | .logout input => input.refreshToken

/-- Its hash, under which the request looks for it. -/
def presentedHash (e : Execution) : String :=
  e.ambient.tokenService.hashRefreshToken e.refreshToken

def isRefresh (e : Execution) : Bool :=
  match e.useCase with
  | .refreshTokens _ => true
  | .logout _ => false

end Execution

/-- The ways a request can have gone so far. -/
inductive Trail (e : Execution) : List TokenStep → Prop where
  | unread : Trail e []
  | found {stored : RefreshToken} (presented : stored.tokenHash = e.presentedHash) : Trail e [.found stored]
  | revoked {stored : RefreshToken} (presented : stored.tokenHash = e.presentedHash)
      (allowed : e.isRefresh = true → stored.isSpent = true) :
      Trail e [.found stored, .revoked stored.tenantId stored.familyId]
  | rotated {stored : RefreshToken} (presented : stored.tokenHash = e.presentedHash)
      (unspent : stored.isSpent = false) : Trail e [.found stored, .rotated stored.tenantId stored.id]
  | saved {stored successor : RefreshToken} (presented : stored.tokenHash = e.presentedHash)
      (unspent : stored.isSpent = false) (sameFamily : successor.SameFamily stored) :
      Trail e [.found stored, .rotated stored.tenantId stored.id, .saved successor]

namespace Trail

variable {e : Execution} {steps : List TokenStep} {stored successor : RefreshToken} {tenantId : TenantId}
  {id : RefreshTokenId}

theorem presented_of_found (way : Trail e steps) (found : .found stored ∈ steps) :
    stored.tokenHash = e.presentedHash := by
  cases way <;> simp at found <;> simp_all

/-- A request finds one token at most. -/
theorem found_unique (way : Trail e steps) {stored' : RefreshToken} (found : .found stored ∈ steps)
    (found' : .found stored' ∈ steps) : stored = stored' := by
  cases way <;> simp at found found' <;> simp_all

/-- Only the token that was found unspent is marked. -/
theorem found_of_rotated (way : Trail e steps) (rotated : .rotated tenantId id ∈ steps) :
    ∃ stored, .found stored ∈ steps ∧ tenantId = stored.tenantId ∧ id = stored.id ∧ stored.isSpent = false := by
  cases way with
  | @rotated stored presented unspent | @saved stored successor presented unspent sameFamily =>
      simp only [List.mem_cons, TokenStep.rotated.injEq, reduceCtorEq, List.not_mem_nil, or_false,
        false_or] at rotated
      exact ⟨stored, List.mem_cons_self, rotated.1, rotated.2, unspent⟩
  | _ => simp at rotated

/-- A successor is saved after the token that was found has been marked, in its family. -/
theorem rotated_of_saved (way : Trail e steps) (saved : .saved successor ∈ steps) :
    ∃ stored, .found stored ∈ steps ∧ .rotated stored.tenantId stored.id ∈ steps ∧
      stored.isSpent = false ∧ successor.SameFamily stored := by
  cases way with
  | @saved stored successor presented unspent sameFamily =>
      simp only [List.mem_cons, TokenStep.saved.injEq, reduceCtorEq, List.not_mem_nil, or_false,
        false_or] at saved
      exact ⟨stored, by simp, by simp, unspent, saved ▸ sameFamily⟩
  | _ => simp at saved

/-- A request saves one successor at most. -/
theorem saved_unique (way : Trail e steps) {successor' : RefreshToken} (saved : .saved successor ∈ steps)
    (saved' : .saved successor' ∈ steps) : successor = successor' := by
  cases way with
  | saved =>
      simp only [List.mem_cons, TokenStep.saved.injEq, reduceCtorEq, List.not_mem_nil, or_false,
        false_or] at saved saved'
      exact saved.trans saved'.symm
  | _ => simp at saved

/-- A request has saved nothing when it marks. -/
theorem not_saved_before (way : Trail e (steps ++ [.rotated tenantId id])) :
    .saved successor ∉ steps ++ [.rotated tenantId id] := by
  intro saved
  have last : (steps ++ [TokenStep.rotated tenantId id]).getLast? = some (.rotated tenantId id) := by simp
  generalize steps ++ [TokenStep.rotated tenantId id] = all at way saved last
  cases way <;> simp at saved last

/-- A request marks once. -/
theorem not_rotated_before {t : TenantId} {id' : RefreshTokenId}
    (way : Trail e (steps ++ [.rotated tenantId id])) : .rotated t id' ∉ steps := by
  intro rotated
  generalize whole : steps ++ [.rotated tenantId id] = all at way
  have marks : 0 < steps.countP TokenStep.isRotated := List.countP_pos_iff.mpr ⟨_, rotated, rfl⟩
  have counted : steps.countP TokenStep.isRotated + 1 = all.countP TokenStep.isRotated := by
    rw [← whole, List.countP_append]
    rfl
  have once : all.countP TokenStep.isRotated ≤ 1 := by
    cases way <;> simp [List.countP_cons, TokenStep.isRotated]
  omega

end Trail

/-- The ways a request can end. -/
structure EndsTrail (e : Execution) (steps : List TokenStep) (out : Except IamError Output) : Prop where
  completed : ∀ tenantId id, .rotated tenantId id ∈ steps → ∃ successor, .saved successor ∈ steps
  answered : e.isRefresh = true → (returnsOk out = true ↔ ∃ successor, .saved successor ∈ steps)
  revoked : ∀ stored, .found stored ∈ steps → e.isRefresh = false ∨ stored.isSpent = true →
    ∃ tenantId familyId, .revoked tenantId familyId ∈ steps

/-- What an event of a request was computed from. -/
theorem exec_of_autocommit {c : Call} {o : Outcome sig Write Empty c}
    (produced : repositories.autocommit.Plausible () ⟨c, o⟩) :
    ∃ db, exec c db = some (o.reply, o.effects) := by
  obtain ⟨_, db, member⟩ := produced
  exact ⟨db, (repositories.mem_onItsOwn.mp member).1⟩

section Programs

variable {e : Execution} {trace : List repositories.autocommit.Event} {steps : List TokenStep}

/-- What the programs of the requests are shown to satisfy; `output` makes an answer of their value. -/
abbrev Follows {α : Type} (e : Execution) (output : α → Except IamError Output)
    (trace : List repositories.autocommit.Event) (p : Proc sig α) : Prop :=
  p.Satisfies (repositories.autocommit.Plausible ()) (fun trace => Trail e (trail trace))
    (fun trace a => EndsTrail e (trail trace) (output a)) trace

variable {α : Type} {output : α → Except IamError Output}

/-- A call adds its step to the trail. -/
theorem Follows.ask {c : Call} {f : c.Reply → Proc sig α} (sofar : trail trace = steps)
    (rest : ∀ (o : Outcome sig Write Empty c) db trace', exec c db = some (o.reply, o.effects) →
      trail trace' = steps ++ (tokenStep? ⟨c, o⟩).toList →
        Trail e (trail trace') ∧ Follows e output trace' (f o.reply)) :
    Follows e output trace (Proc.ask (S := sig) c >>= f) := by
  apply Proc.Satisfies.ask
  intro o produced
  obtain ⟨db, answered⟩ := exec_of_autocommit produced
  exact rest o db _ answered (by rw [trail_append, sofar])

theorem Follows.done {a : α} (sofar : trail trace = steps) (ends : EndsTrail e steps (output a)) :
    Follows e output trace (.done a) := by
  change EndsTrail e (trail trace) (output a)
  rw [sofar]
  exact ends

/-- A request that ends without a token in its hands. -/
theorem endsTrail_unread {out : Except IamError Output} (fails : e.isRefresh = true → returnsOk out = false) :
    EndsTrail e [] out := by
  constructor
  · intro _ _ member
    cases member
  · intro isRefresh
    simp [fails isRefresh]
  · intro _ member
    cases member

/-- A refresh that ends after it has looked at an unspent token. -/
theorem endsTrail_found {stored : RefreshToken} {out : Except IamError Output} (isRefresh : e.isRefresh = true)
    (unspent : stored.isSpent = false) (fails : returnsOk out = false) : EndsTrail e [.found stored] out := by
  constructor
  · simp
  · simp [fails]
  · intro stored' member spent
    simp only [List.mem_singleton, TokenStep.found.injEq] at member
    simp [member, unspent, isRefresh] at spent

theorem endsTrail_revoked {stored : RefreshToken} {out : Except IamError Output}
    (fails : e.isRefresh = true → returnsOk out = false) :
    EndsTrail e [.found stored, .revoked stored.tenantId stored.familyId] out := by
  constructor
  · simp
  · intro isRefresh
    simp [fails isRefresh]
  · intro _ _ _
    exact ⟨stored.tenantId, stored.familyId, by simp⟩

theorem endsTrail_saved {stored successor : RefreshToken} {out : Except IamError Output}
    (unspent : stored.isSpent = false) (isRefresh : e.isRefresh = true) (succeeds : returnsOk out = true) :
    EndsTrail e [.found stored, .rotated stored.tenantId stored.id, .saved successor] out := by
  constructor
  · intro _ _ _
    exact ⟨successor, by simp⟩
  · simp [succeeds]
  · intro stored' member spent
    simp only [List.mem_cons, TokenStep.found.injEq, reduceCtorEq, List.not_mem_nil, or_false] at member
    simp [member, unspent, isRefresh] at spent

/-- Every request starts with a search for the token it presents, in the tenant it was signed for. -/
theorem Follows.find {tenantId : TenantId} {tokenHash : String} {f : Option RefreshToken → Proc sig α}
    (presents : e.presentedHash = tokenHash)
    (unread : ∀ trace, trail trace = [] → Follows e output trace (f none))
    (found : ∀ stored trace, stored.tokenHash = e.presentedHash → stored.tenantId = tenantId →
      trail trace = [.found stored] → Follows e output trace (f (some stored))) :
    Follows e output [] (Proc.ask (S := sig) (.refreshTokensFindByHash tenantId tokenHash) >>= f) := by
  apply Follows.ask trail_nil
  intro o db trace answered grown
  cases reply : o.reply with
  | none =>
      simp only [tokenStep?, reply, Option.map_none, Option.toList_none, List.append_nil] at grown
      rw [grown]
      exact ⟨.unread, unread trace grown⟩
  | some stored =>
      rw [reply] at answered
      obtain ⟨_, sameHash, sameTenant⟩ := exec_findByHash answered
      have presented : stored.tokenHash = e.presentedHash := sameHash.trans presents.symm
      simp only [tokenStep?, reply, Option.map_some, Option.toList_some, List.nil_append] at grown
      rw [grown]
      exact ⟨.found presented, found stored trace presented sameTenant grown⟩

theorem RefreshTokens.follows {input : RefreshTokensInput} (isUseCase : e.useCase = .refreshTokens input) :
    Follows e id [] e.program := by
  have program : e.program = (·.map .tokens) <$> execute input e.ambient := by
    unfold Execution.program
    rw [isUseCase]
  have isRefresh : e.isRefresh = true := by simp [Execution.isRefresh, isUseCase]
  have hash : e.presentedHash = e.ambient.tokenService.hashRefreshToken input.refreshToken := by
    simp [Execution.presentedHash, Execution.refreshToken, isUseCase]
  rw [program, Follows, Proc.satisfies_map]
  unfold execute
  split
  · exact Follows.done trail_nil (endsTrail_unread fun _ => rfl)
  · rename_i claims _
    apply Follows.find hash
    · intro trace₁ grown₁
      exact .done grown₁ (endsTrail_unread fun _ => rfl)
    · intro stored trace₁ presented sameTenant grown₁
      simp only [← sameTenant]
      split
      · rename_i spent
        apply Follows.ask grown₁
        intro o₂ db₂ trace₂ _ grown₂
        rw [show trail trace₂ = [.found stored, .revoked stored.tenantId stored.familyId] from grown₂]
        exact ⟨.revoked presented fun _ => spent, .done grown₂ (endsTrail_revoked fun _ => rfl)⟩
      · rename_i fresh
        have unspent : stored.isSpent = false := by simpa using fresh
        split
        · exact .done grown₁ (endsTrail_found isRefresh unspent rfl)
        · apply Follows.ask grown₁
          intro o₂ db₂ trace₂ _ grown₂
          rw [show trail trace₂ = [.found stored] from grown₂]
          refine ⟨.found presented, ?_⟩
          cases o₂.reply with
          | none => exact .done grown₂ (endsTrail_found isRefresh unspent rfl)
          | some membership =>
              apply Follows.ask grown₂
              intro o₃ db₃ trace₃ _ grown₃
              rw [show trail trace₃ = [.found stored, .rotated stored.tenantId stored.id] from grown₃]
              refine ⟨.rotated presented unspent, ?_⟩
              apply Follows.ask grown₃
              intro o₄ db₄ trace₄ _ grown₄
              rw [show trail trace₄ = [.found stored, .rotated stored.tenantId stored.id, .saved _] from grown₄]
              exact ⟨.saved presented unspent ⟨rfl, rfl⟩,
                .done grown₄ (endsTrail_saved unspent isRefresh rfl)⟩

theorem Logout.follows {input : LogoutInput} (isUseCase : e.useCase = .logout input) :
    Follows e id [] e.program := by
  have program : e.program = (·.map fun _ => .done) <$> execute input e.ambient := by
    unfold Execution.program
    rw [isUseCase]
  have isLogout : e.isRefresh = false := by simp [Execution.isRefresh, isUseCase]
  have hash : e.presentedHash = e.ambient.tokenService.hashRefreshToken input.refreshToken := by
    simp [Execution.presentedHash, Execution.refreshToken, isUseCase]
  rw [program, Follows, Proc.satisfies_map]
  unfold execute
  split
  · exact Follows.done trail_nil (endsTrail_unread (by simp [isLogout]))
  · rename_i claims _
    apply Follows.find hash
    · intro trace₁ grown₁
      exact .done grown₁ (endsTrail_unread (by simp [isLogout]))
    · intro stored trace₁ presented sameTenant grown₁
      simp only [← sameTenant]
      apply Follows.ask grown₁
      intro o₂ db₂ trace₂ _ grown₂
      rw [show trail trace₂ = [.found stored, .revoked stored.tenantId stored.familyId] from grown₂]
      exact ⟨.revoked presented (by simp [isLogout]), .done grown₂ (endsTrail_revoked (by simp [isLogout]))⟩

end Programs

/-- Every request keeps to its trail. -/
theorem Execution.trail_spec (e : Execution) : Trail e (trail []) ∧ Follows e id [] e.program := by
  refine ⟨.unread, ?_⟩
  cases isUseCase : e.useCase with
  | refreshTokens input => exact RefreshTokens.follows isUseCase
  | logout input => exact Logout.follows isUseCase

end Helpdesk.Iam
