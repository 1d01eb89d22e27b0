/-
Module: HelpdeskApi.Iam.TokenRuns
Layer: Application
Purpose: The refresh tokens along any run of interleaved requests. Each call changes the table by its one
  statement and the trail of its request by its one step; rows stay and only get spent, every row comes
  from the start or was saved by some request, and a row from the start is rotated exactly if some request
  has marked it.
Trusted boundary: none
Main exports: trailOf, TokenCall, tokens_of_step, row_of_run, mem_of_run, found_of_run,
  uniqueHashes_of_run
-/
import HelpdeskApi.Iam.TokenTraces
import HelpdeskApi.Library.CommitLog
import HelpdeskApi.Library.Faults

namespace Helpdesk.Iam

open Relational Txn Transition

/-- What a request has done about tokens. -/
def trailOf (c : Config iam) (i : Nat) : List TokenStep :=
  (c.sessions[i]?).elim [] fun s => trail s.trace

theorem trailOf_eq {c : Config iam} {i : Nat} {s : Session iam} (found : c.sessions[i]? = some s) :
    trailOf c i = trail s.trace := by
  simp [trailOf, found]

theorem session_of_trailOf {c : Config iam} {i : Nat} {step : TokenStep} (member : step ∈ trailOf c i) :
    ∃ s : Session iam, c.sessions[i]? = some s ∧ step ∈ trail s.trace := by
  cases found : c.sessions[i]? with
  | none => simp [trailOf, found] at member
  | some s => exact ⟨s, rfl, trailOf_eq found ▸ member⟩

/-- What a call of the `i`-th request changes. -/
structure TokenCall (c c' : Config iam) (i : Nat) (k : Call) (o : Outcome sig Write Empty k) : Prop where
  answered : exec k c.db = some (o.reply, o.effects)
  db : c'.db = k.write?.elim c.db fun w => w.apply c.db
  own : trailOf c' i = trailOf c i ++ (tokenStep? ⟨k, o⟩).toList
  others : ∀ j, j ≠ i → trailOf c' j = trailOf c j

/-- What a step changes: nothing of the tokens, or what one call changes. -/
inductive TokensStepped (c c' : Config iam) (m : Move iam) : Prop where
  | silent (db : c'.db = c.db) (calls : c.calling m = none) (trails : ∀ j, trailOf c' j = trailOf c j)
  | call (i choice : Nat) (k : Call) (o : Outcome sig Write Empty k) (isCall : m = .call i choice)
      (calls : c.calling m = some k) (made : TokenCall c c' i k o)

section Runs

variable {db₀ : Db} {jobs : List Execution} {history : List (Config iam × Move iam)} {c c' : Config iam}
  {m : Move iam}

theorem trails_conform (run : Run Config.step (.start db₀ jobs) history c) :
    c.Conforms (fun (e : Execution) trace => Trail e (trail trace))
      fun (e : Execution) trace out => EndsTrail e (trail trace) out :=
  Config.conforms_of_run Execution.trail_spec run

theorem trailOf_put {i : Nat} {s : Session iam} (found : c.sessions[i]? = some s) (s' : Session iam) (j : Nat) :
    trailOf (c.put i s') j = if j = i then trail s'.trace else trailOf c j := by
  unfold trailOf
  rw [Config.getElem?_put found]
  split <;> rfl

theorem trailOf_put_status {i : Nat} {s : Session iam} (found : c.sessions[i]? = some s)
    (status : Status sig (Except IamError Output)) (j : Nat) :
    trailOf (c.put i { s with status := status }) j = trailOf c j := by
  rw [trailOf_put found]
  split
  · rename_i isSelf
    rw [isSelf, trailOf_eq found]
  · rfl

theorem tokens_of_step (run : Run Config.step (.start db₀ jobs) history c) (taken : c.step m = some c') :
    TokensStepped c c' m := by
  cases Config.own_of_step run taken with
  | arrive job =>
      refine .silent rfl rfl fun j => ?_
      unfold trailOf
      rcases Nat.lt_trichotomy j c.sessions.length with older | newest | beyond
      · rw [List.getElem?_append_left older]
      · subst newest
        simp
      · rw [List.getElem?_eq_none (by simpa using Nat.succ_le_of_lt beyond), List.getElem?_eq_none (Nat.le_of_lt beyond)]
  | @call i choice s k next o found running answered =>
      have effects := exec_writes answered
      refine .call i choice k o rfl (by simp [Config.calling, found, running]) ⟨answered, ?_, ?_, ?_⟩
      · rw [effects]
        cases k.write? <;> rfl
      · change trailOf (c.put i _) i = _
        rw [trailOf_put found, if_pos rfl, Session.advance_trace, trail_append, trailOf_eq found]
      · intro j other
        change trailOf (c.put i _) j = _
        rw [trailOf_put found, if_neg other]
  | @finish i s out found running =>
      refine .silent rfl (by simp [Config.calling]) fun j => ?_
      exact trailOf_put_status found _ j
  | @abort i s rest found running =>
      refine .silent rfl (by simp [Config.calling]) fun j => ?_
      exact trailOf_put_status found _ j

end Runs

section Calls

variable {c c' : Config iam} {i : Nat} {k : Call} {o : Outcome sig Write Empty k}

theorem TokenCall.mem_trailOf (made : TokenCall c c' i k o) (step : TokenStep) (j : Nat) :
    step ∈ trailOf c' j ↔ step ∈ trailOf c j ∨ (j = i ∧ tokenStep? ⟨k, o⟩ = some step) := by
  by_cases isSelf : j = i
  · subst isSelf
    simp [made.own, Option.mem_toList]
  · simp [made.others j isSelf, isSelf]

theorem tokenStep?_eq_rotated_iff {tenantId : TenantId} {id : RefreshTokenId} :
    tokenStep? ⟨k, o⟩ = some (.rotated tenantId id) ↔ ∃ when, k = .refreshTokensMarkRotated tenantId id when := by
  cases k with
  | refreshTokensFindByHash _ _ => cases found : o.reply <;> simp [tokenStep?, found]
  | _ => simp [tokenStep?]

theorem tokenStep?_eq_revoked_iff {tenantId : TenantId} {familyId : RefreshFamilyId} :
    tokenStep? ⟨k, o⟩ = some (.revoked tenantId familyId) ↔
      ∃ when, k = .refreshTokensRevokeFamily tenantId familyId when := by
  cases k with
  | refreshTokensFindByHash _ _ => cases found : o.reply <;> simp [tokenStep?, found]
  | _ => simp [tokenStep?]

theorem tokenStep?_eq_saved_iff {token : RefreshToken} :
    tokenStep? ⟨k, o⟩ = some (.saved token) ↔ k = .refreshTokensSave token := by
  cases k with
  | refreshTokensFindByHash _ _ => cases found : o.reply <;> simp [tokenStep?, found]
  | _ => simp [tokenStep?]

theorem write?_eq_markRotated_iff {tenantId : TenantId} {id : RefreshTokenId} {when : Instant} :
    k.write? = some (.markRotated tenantId id when) ↔ k = .refreshTokensMarkRotated tenantId id when := by
  cases k <;> simp [Call.write?]

theorem write?_eq_revokeFamily_iff {tenantId : TenantId} {familyId : RefreshFamilyId} {when : Instant} :
    k.write? = some (.revokeFamily tenantId familyId when) ↔
      k = .refreshTokensRevokeFamily tenantId familyId when := by
  cases k <;> simp [Call.write?]

theorem write?_eq_insert_iff {token : RefreshToken} :
    k.write? = some (.insertRefreshToken token) ↔ k = .refreshTokensSave token := by
  cases k <;> simp [Call.write?]

/-- What a call makes of a row. -/
structure RowAfterStep (step : Option TokenStep) (old new : RefreshToken) : Prop where
  becomes : old.Becomes new
  rotated : new.rotatedAt.isSome = true ↔
    old.rotatedAt.isSome = true ∨ step = some (.rotated old.tenantId old.id)
  revoked : new.revokedAt.isSome = true ↔
    old.revokedAt.isSome = true ∨ step = some (.revoked old.tenantId old.familyId)

theorem RowAfterStep.of_none {r : RefreshToken} (isQuery : k.write? = none) :
    RowAfterStep (tokenStep? ⟨k, o⟩) r r where
  becomes := .refl r
  rotated := by simp [tokenStep?_eq_rotated_iff, ← write?_eq_markRotated_iff, isQuery]
  revoked := by simp [tokenStep?_eq_revoked_iff, ← write?_eq_revokeFamily_iff, isQuery]

theorem RowAfterStep.of_write {w : Write} {old new : RefreshToken} (isWrite : k.write? = some w)
    (after : w.RowAfter old new) : RowAfterStep (tokenStep? ⟨k, o⟩) old new where
  becomes := after.becomes
  rotated := by simp [tokenStep?_eq_rotated_iff, ← write?_eq_markRotated_iff, isWrite, after.rotated]
  revoked := by simp [tokenStep?_eq_revoked_iff, ← write?_eq_revokeFamily_iff, isWrite, after.revoked]

theorem TokenCall.find? (made : TokenCall c c' i k o) {id : RefreshTokenId} {r : RefreshToken}
    (stored : c.db.refreshTokens.find? id = some r) :
    ∃ r', c'.db.refreshTokens.find? id = some r' ∧ RowAfterStep (tokenStep? ⟨k, o⟩) r r' := by
  rw [made.db]
  cases isWrite : k.write? with
  | none => exact ⟨r, stored, .of_none isWrite⟩
  | some w =>
      obtain ⟨r', stored', after⟩ := w.find?_refreshTokens stored
      exact ⟨r', stored', .of_write isWrite after⟩

theorem TokenCall.mem (made : TokenCall c c' i k o) {r : RefreshToken}
    (stored : r ∈ c'.db.refreshTokens.rows) :
    (∃ old ∈ c.db.refreshTokens.rows, RowAfterStep (tokenStep? ⟨k, o⟩) old r) ∨
      ∃ token, tokenStep? ⟨k, o⟩ = some (.saved token) ∧ r = createRefreshTokenRow token := by
  rw [made.db] at stored
  cases isWrite : k.write? with
  | none =>
      rw [isWrite] at stored
      exact .inl ⟨r, stored, .of_none isWrite⟩
  | some w =>
      rw [isWrite] at stored
      rcases w.mem_refreshTokens stored with ⟨old, inside, after⟩ | ⟨token, isInsert, new⟩
      · exact .inl ⟨old, inside, .of_write isWrite after⟩
      · exact .inr ⟨token, tokenStep?_eq_saved_iff.mpr (write?_eq_insert_iff.mp (isInsert ▸ isWrite)), new⟩

/-- A token that a request finds is a row. -/
theorem TokenCall.mem_of_found (made : TokenCall c c' i k o) {stored : RefreshToken}
    (found : tokenStep? ⟨k, o⟩ = some (.found stored)) : stored ∈ c.db.refreshTokens.rows := by
  cases k with
  | refreshTokensFindByHash tenantId tokenHash =>
      have same : o.reply = some stored := by simpa [tokenStep?] using found
      have answered := made.answered
      rw [same] at answered
      exact (exec_findByHash answered).1
  | _ => simp [tokenStep?] at found

end Calls

section Runs

variable {db₀ : Db} {jobs : List Execution} {history : List (Config iam × Move iam)} {c c' : Config iam}
  {m : Move iam}

theorem trailOf_start (db₀ : Db) (jobs : List Execution) (i : Nat) :
    trailOf (Config.start (A := iam) db₀ jobs) i = [] := by
  cases found : (Config.start (A := iam) db₀ jobs).sessions[i]? with
  | none => simp [trailOf, found]
  | some s =>
      obtain ⟨job, _, rfl⟩ := Config.start_session found
      rw [trailOf_eq found]
      rfl

/-- What a request has done it has done. -/
theorem mem_trailOf_of_step (run : Run Config.step (.start db₀ jobs) history c) (taken : c.step m = some c')
    {step : TokenStep} {i : Nat} (member : step ∈ trailOf c i) : step ∈ trailOf c' i := by
  cases tokens_of_step run taken with
  | silent _ _ trails => rwa [trails i]
  | call j _ k o _ _ made => exact (made.mem_trailOf step i).mpr (.inl member)

theorem mem_trailOf_of_run (run : Run Config.step (.start db₀ jobs) history c)
    {history' : List (Config iam × Move iam)} (later : Run Config.step c history' c') {step : TokenStep} {i : Nat}
    (member : step ∈ trailOf c i) : step ∈ trailOf c' i := by
  induction later with
  | start => exact member
  | step later taken ih => exact mem_trailOf_of_step (run.append later) taken ih

/-- A row of the start is still there, and it is rotated exactly if it was, or some request has marked it. -/
theorem row_of_run (run : Run Config.step (.start db₀ jobs) history c) {id : RefreshTokenId} {r : RefreshToken}
    (stored : db₀.refreshTokens.find? id = some r) :
    ∃ r', c.db.refreshTokens.find? id = some r' ∧ r.Becomes r' ∧
      (r'.rotatedAt.isSome = true ↔
        r.rotatedAt.isSome = true ∨ ∃ i, .rotated r.tenantId r.id ∈ trailOf c i) := by
  induction run with
  | start =>
      refine ⟨r, stored, .refl r, ?_⟩
      simp [trailOf_start]
  | @step history c c' m run taken ih =>
      obtain ⟨r₁, stored₁, becomes, rotated⟩ := ih
      cases tokens_of_step run taken with
      | silent db _ trails =>
          simp only [db, trails]
          exact ⟨r₁, stored₁, becomes, rotated⟩
      | call i _ k o _ _ made =>
          obtain ⟨r₂, stored₂, after⟩ := made.find? stored₁
          refine ⟨r₂, stored₂, becomes.trans after.becomes, ?_⟩
          have sameTenant : r₁.tenantId = r.tenantId := becomes.sameFamily.tenantId
          rw [after.rotated, rotated, sameTenant, becomes.id, or_assoc]
          apply or_congr_right
          simp only [made.mem_trailOf]
          constructor
          · intro either
            rcases either with ⟨j, before⟩ | now
            · exact ⟨j, .inl before⟩
            · exact ⟨i, .inr ⟨rfl, now⟩⟩
          · intro some
            obtain ⟨j, before | ⟨_, now⟩⟩ := some
            · exact .inl ⟨j, before⟩
            · exact .inr now

/-- Every row comes from the start or was saved by some request. -/
theorem mem_of_run (run : Run Config.step (.start db₀ jobs) history c) {r : RefreshToken}
    (stored : r ∈ c.db.refreshTokens.rows) :
    (∃ old ∈ db₀.refreshTokens.rows, old.Becomes r) ∨
      ∃ i token, .saved token ∈ trailOf c i ∧ (createRefreshTokenRow token).Becomes r := by
  induction run generalizing r with
  | start => exact .inl ⟨r, stored, .refl r⟩
  | @step history c c' m run taken ih =>
      cases tokens_of_step run taken with
      | silent db _ trails =>
          rw [db] at stored
          simpa only [trails] using ih stored
      | call i _ k o _ _ made =>
          rcases made.mem stored with ⟨old, inside, after⟩ | ⟨token, saved, new⟩
          · rcases ih inside with ⟨first, initial, becomes⟩ | ⟨j, token, saved, becomes⟩
            · exact .inl ⟨first, initial, becomes.trans after.becomes⟩
            · exact .inr ⟨j, token, mem_trailOf_of_step run taken saved, becomes.trans after.becomes⟩
          · exact .inr ⟨i, token, (made.mem_trailOf _ i).mpr (.inr ⟨rfl, saved⟩), new ▸ .refl _⟩

/-- A token that some request has found is a row, which may have been spent since. -/
theorem found_of_run (run : Run Config.step (.start db₀ jobs) history c) {i : Nat} {stored : RefreshToken}
    (found : .found stored ∈ trailOf c i) :
    ∃ row, c.db.refreshTokens.find? stored.id = some row ∧ stored.Becomes row := by
  induction run with
  | start => simp [trailOf_start] at found
  | @step history c c' m run taken ih =>
      cases tokens_of_step run taken with
      | silent db _ trails =>
          rw [db]
          exact ih (trails i ▸ found)
      | call j _ k o _ _ made =>
          have before : ∃ row, c.db.refreshTokens.find? stored.id = some row ∧ stored.Becomes row := by
            rcases (made.mem_trailOf _ i).mp found with before | ⟨_, now⟩
            · exact ih before
            · exact ⟨stored, Table.find?_key (made.mem_of_found now), .refl stored⟩
          obtain ⟨row, located, becomes⟩ := before
          obtain ⟨row', located', after⟩ := made.find? located
          exact ⟨row', located', becomes.trans after.becomes⟩

theorem uniqueHashes_of_run (unique : UniqueHashes db₀) (run : Run Config.step (.start db₀ jobs) history c) :
    UniqueHashes c.db := by
  induction run with
  | start => exact unique
  | @step history c c' m run taken ih =>
      cases tokens_of_step run taken with
      | silent db _ _ =>
          rw [db]
          exact ih
      | call i _ k o _ _ made =>
          rw [made.db]
          cases isWrite : k.write? with
          | none => exact ih
          | some w =>
              apply ih.apply
              intro token isInsert row inside
              have isSave := write?_eq_insert_iff.mp (isInsert ▸ isWrite)
              subst isSave
              exact (exec_save made.answered row inside).2

end Runs

end Helpdesk.Iam
