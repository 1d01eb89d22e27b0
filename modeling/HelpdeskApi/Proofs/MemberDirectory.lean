/-
Module: HelpdeskApi.Proofs.MemberDirectory
Layer: Proofs
Purpose: The two contexts agree on who belongs to an organisation, in every state the application can reach: the list
  of the members is answered, everybody is on it once, in the order of their addresses; whom it shows is found by
  their id, and nobody else; and they are those a ticket can be assigned to, and those who are agents are those it is
  assigned to automatically.
Trusted boundary: none
Main exports: members_agree_of_run
-/
import HelpdeskApi.Proofs.Authorization

namespace Helpdesk.Http

open Iam Relational Txn Transition

section Views

variable {unicode : Unicode} {collation : Collation} {w : World} {t : TenantId} {ctx : Helpdesk.Ctx}
  {views : List MemberView}

/-- Whom a ticket can be assigned to. -/
theorem isMember_of_list (own : ctx.tenant = some t)
    (read : Accounts.lookup unicode collation (.membersList t) w.directory = some views) (u : UserId) :
    exec ctx (.membersIsMember t u) w.ticketing = some (decide (u ∈ views.map MemberView.userId), []) := by
  have same := (map_of_list (fun _ _ isShown => isShown.userId) read).mem_iff (a := u)
  have rows : w.ticketing.memberships.rows = w.directory.memberships.rows.map Membership.toRow := rfl
  rw [exec_membersIsMember own]
  congr 2
  rw [Bool.eq_iff_iff, decide_eq_true_iff, same, Table.any, rows, List.any_map, List.any_eq_true, List.mem_map]
  constructor
  · rintro ⟨m, inside, theirs⟩
    have both : m.tenantId = t ∧ m.userId = u := of_decide_eq_true theirs
    exact ⟨m, List.mem_filter.mpr ⟨inside, decide_eq_true both.1⟩, both.2⟩
  · rintro ⟨m, inside, theirs⟩
    obtain ⟨there, isOwn⟩ := List.mem_filter.mp inside
    exact ⟨m, there, decide_eq_true ⟨of_decide_eq_true isOwn, theirs⟩⟩

/-- Who is an agent. -/
theorem agentsOf_of_list (own : ctx.tenant = some t)
    (read : Accounts.lookup unicode collation (.membersList t) w.directory = some views) :
    ∃ agents, exec ctx (.membersAgentsOf t) w.ticketing = some (agents, []) ∧
      agents.Perm ((views.filter fun view => view.role ≠ .VIEWER).map MemberView.userId) := by
  have agree (m : Membership) (view : MemberView) (isShown : Shows w.directory m view) :
      (view.userId, view.role) = (m.userId, m.role) := Prod.ext isShown.userId isShown.role
  have ranked := ((map_of_list agree read).filter fun entry => entry.2 ≠ .VIEWER).map Prod.fst
  simp only [List.filter_map, List.map_map, Function.comp_def, List.filter_filter] at ranked
  refine ⟨_, rfl, ((List.perm_insertionSort _ _).map _).trans ?_⟩
  refine List.Perm.trans ?_ ranked.symm
  rw [own]
  simp only [World.ticketing, Db.visible, Directory.Db.sessions, Table.filter, Table.map, List.filter_filter,
    List.filter_map, List.map_map, Function.comp_def, Membership.toRow]
  apply List.Perm.of_eq
  congr 1
  apply List.filter_congr
  intro m _
  have ranks (role : Role) : role = .AGENT ∨ role = .ADMIN ↔ role ≠ .VIEWER := by cases role <;> decide
  by_cases isOwn : m.tenantId = t
  · simp [isOwn, ranks]
  · simp [isOwn]

end Views

section Runs

variable {unicode : Unicode} {collation : Collation} {v : Validators} {jwt : AccessJwt} {w₀ : World}
  {c : Config (application unicode collation v jwt)}
  {history : List (Config (application unicode collation v jwt) × Move (application unicode collation v jwt))}

/-- In every state that is reached, what the identity context shows of the members of an organisation and what the
    ticketing context goes by are the same. -/
theorem members_agree_of_run (lowersOnce : LowersOnce unicode) (coherent : Coherent unicode w₀.directory)
    (linked : w₀.ticketing.Linked) (run : Run Config.step (.start w₀ []) history c)
    (admissible : Meets Admissible history) (t : TenantId) (ctx : Helpdesk.Ctx) (own : ctx.tenant = some t) :
    ∃ views, Accounts.lookup unicode collation (.membersList t) c.db.directory = some views ∧
      (views.map MemberView.userId).Nodup ∧ views.Pairwise (fun a b => collation.le a.email b.email) ∧
      (∀ u, Accounts.lookup unicode collation (.membersFindById t u) c.db.directory =
        some (views.find? fun view => view.userId = u)) ∧
      (∀ u, exec ctx (.membersIsMember t u) c.db.ticketing = some (decide (u ∈ views.map MemberView.userId), [])) ∧
      ∃ agents, exec ctx (.membersAgentsOf t) c.db.ticketing = some (agents, []) ∧
        agents.Perm ((views.filter fun view => view.role ≠ .VIEWER).map MemberView.userId) := by
  obtain ⟨goes, _, _⟩ := traffic_of_run lowersOnce coherent linked run admissible
  have coherent' := goes.directory.coherent coherent
  obtain ⟨views, read⟩ := list_of_coherent (t := t) coherent'
  exact ⟨views, read, nodup_list read, sorted_list read, findById_of_list coherent' read, isMember_of_list own read,
    agentsOf_of_list own read⟩

end Runs

theorem members_agree_of_run_example :
    ∃ history c views, Run Config.step nobody history c ∧ c.sessions.length = 2 ∧
      Accounts.lookup ascii exampleCollation (.membersList ana.tenantId) c.db.directory = some views ∧
      (views.map MemberView.userId).Nodup ∧
      Accounts.lookup ascii exampleCollation (.membersFindById ana.tenantId ana.userId) c.db.directory =
        some (views.find? fun view => view.userId = ana.userId) := by
  obtain ⟨history, c, _, _, _, run, admissible, _, _, _, before, _⟩ := day
  obtain ⟨views, read, once, _, found, _⟩ := members_agree_of_run lowersOnce_ascii (coherent_empty ascii) linked_nobody run
    admissible ana.tenantId { tenant := some ana.tenantId, requestId := none } rfl
  have sessions : c.sessions.length = 2 := by simpa [shows] using congrArg (fun facts => facts.1.length) before
  exact ⟨history, c, views, run, sessions, read, once, found ana.userId⟩

end Helpdesk.Http
