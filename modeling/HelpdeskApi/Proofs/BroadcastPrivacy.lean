/-
Module: HelpdeskApi.Proofs.BroadcastPrivacy
Layer: Proofs
Purpose: What the rooms of a tenant and of a ticket learn from a broadcast. It is a function of the fields
  anybody with the ticket may see, whatever else the payload of the event has, and the events about who
  attends to a ticket do not reach these rooms at all.
Trusted boundary: none
Main exports: RealtimeAudience.isGeneral, generalDeliveries, SameForAll, broadcasts_impersonal
-/
import HelpdeskApi.Realtime.Broadcast

namespace Helpdesk

open BroadcastTicketEvent

/-- The rooms that are not only for the team. -/
def RealtimeAudience.isGeneral : RealtimeAudience → Bool
  | .tenant _ => true
  | .ticket _ _ => true
  | .staff _ => false

/-- The fields of a payload that anybody may see. -/
def GENERAL_FIELDS : List String := ["number", "subject", "priority", "status", "to", "commentId"]

/-- The events about who attends to a ticket, and how well. -/
def TEAM_EVENTS : List String := ["ticket.assigned", "ticket.unassigned", "sla.breached"]

section Broadcasts

variable {V : Type} [UnknownValue V] {input input' : BroadcastInput V}

/-- What is published to the rooms of the tenant and of the ticket, in this order. -/
def generalDeliveries (input : BroadcastInput V) : List (Delivery V) :=
  (execute input).1.filter fun delivery => delivery.audience.isGeneral

omit [UnknownValue V] in
/-- Two events that are the same to somebody who may see the ticket and no more. -/
structure SameForAll (input input' : BroadcastInput V) : Prop where
  eventName : input.eventName = input'.eventName
  tenantId : input.tenantId = input'.tenantId
  ticketId : input.ticketId = input'.ticketId
  occurredAt : input.occurredAt = input'.occurredAt
  payload : ∀ name ∈ GENERAL_FIELDS, input.field? name = input'.field? name

/-- Whether anything is published does not matter for what is published. -/
theorem execute_fst (input : BroadcastInput V) : (execute input).1 = deliveriesFor input := by
  unfold execute
  split
  · rename_i none
    exact none.symm
  · rfl

/-- Events about the team go to the team only. -/
theorem generalDeliveries_of_team (team : input.eventName ∈ TEAM_EVENTS) : generalDeliveries input = [] := by
  simp only [TEAM_EVENTS, List.mem_cons, List.not_mem_nil, or_false] at team
  rw [generalDeliveries, execute_fst]
  rcases team with name | name | name <;>
    simp [deliveriesFor, name, staff, RealtimeAudience.isGeneral]

/-- The deliveries of the other events have the fields anybody may see, and no others. -/
theorem deliveriesFor_congr (same : SameForAll input input') (others : input.eventName ∉ TEAM_EVENTS) :
    deliveriesFor input = deliveriesFor input' := by
  have number := same.payload "number" (by decide)
  have subject := same.payload "subject" (by decide)
  have priority := same.payload "priority" (by decide)
  have status := same.payload "status" (by decide)
  have target := same.payload "to" (by decide)
  have commentId := same.payload "commentId" (by decide)
  have audiences : tenant input = tenant input' ∧ ticket input = ticket input' ∧ base input = base input' := by
    simp only [tenant, ticket, base, same.tenantId, same.ticketId, same.occurredAt, and_self]
  obtain ⟨tenants, tickets, bases⟩ := audiences
  have notTeam : ¬ (input.eventName = "ticket.assigned" ∨ input.eventName = "ticket.unassigned") ∧
      ¬ input.eventName = "sla.breached" := by
    simp only [TEAM_EVENTS, List.mem_cons, List.not_mem_nil, or_false, not_or] at others
    exact ⟨fun assignment => assignment.elim others.1 others.2.1, others.2.2⟩
  unfold deliveriesFor
  rw [← same.eventName, if_neg notTeam.1, if_neg notTeam.2, if_neg notTeam.1, if_neg notTeam.2]
  simp only [number, subject, priority, status, target, commentId, tenants, tickets, bases]

/-- Two events that anybody sees alike are broadcast alike to everybody, however much they differ in who
    wrote, who is assigned or anything else, and nothing about the team gets there. -/
theorem broadcasts_impersonal :
    (∀ input input' : BroadcastInput V, SameForAll input input' →
      generalDeliveries input = generalDeliveries input') ∧
    ∀ input : BroadcastInput V, input.eventName ∈ TEAM_EVENTS → generalDeliveries input = [] := by
  refine ⟨?_, fun input team => generalDeliveries_of_team team⟩
  intro input input' same
  by_cases team : input.eventName ∈ TEAM_EVENTS
  · rw [generalDeliveries_of_team team, generalDeliveries_of_team (same.eventName ▸ team)]
  · rw [generalDeliveries, generalDeliveries, execute_fst, execute_fst, deliveriesFor_congr same team]

end Broadcasts

section Example

/-- A comment of an agent, and one of the requester. -/
def commentBy (authorRole : String) (authorId : Uuid) : BroadcastInput Value where
  eventName := "comment.added"
  version := 2
  tenantId := ⟨1⟩
  ticketId := ⟨100⟩
  occurredAt := 0
  payload := [("commentId", .uuid 7), ("authorId", .uuid authorId), ("authorRole", .str authorRole)]

theorem broadcasts_impersonal_comments :
    generalDeliveries (commentBy "AGENT" 3) = generalDeliveries (commentBy "VIEWER" 2) ∧
      generalDeliveries { commentBy "AGENT" 3 with eventName := "ticket.assigned" } = [] := by
  refine ⟨broadcasts_impersonal.1 _ _ ⟨rfl, rfl, rfl, rfl, ?_⟩, broadcasts_impersonal.2 _ (by decide)⟩
  decide

end Example

end Helpdesk
