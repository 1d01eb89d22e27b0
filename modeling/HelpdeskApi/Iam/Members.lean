/-
Module: HelpdeskApi.Iam.Members
Layer: Application
Purpose: Who is shown as a member. A membership is shown with its user, and where the tables fit together it always
  has one, so that the list of the members is never refused: it shows every membership of the organisation, and
  whoever is looked up is shown as they are on the list.
Trusted boundary: none
Main exports: Shown, memberView_of_coherent, list_of_coherent, mem_list_iff, map_of_list,
  nodup_list, sorted_list, findById_of_list, shown_of_list, shown_of_found
-/
import HelpdeskApi.Iam.Promises

namespace Helpdesk.Iam

open Relational

variable {unicode : Unicode} {collation : Collation} {db : Directory.Db} {t : TenantId}

/-- Whoever is shown is a member, and their address is the one of their user. -/
structure Shown (db : Directory.Db) (t : TenantId) (view : MemberView) : Prop where
  member : Member db { userId := view.userId, tenantId := t, role := view.role }
  address : ∃ u ∈ db.users.rows, u.id = view.userId ∧ u.tenantId = t ∧ u.email = view.email

theorem Shown.grows {db' : Directory.Db} {view : MemberView} (shown : Shown db t view)
    (grows : Grows unicode db db') : Shown db' t view := by
  obtain ⟨u, inside, isTheirs⟩ := shown.address
  exact ⟨shown.member.grows grows, u, grows.users inside, isTheirs⟩

/-- What a membership is shown as. -/
structure Shows (db : Directory.Db) (m : Membership) (view : MemberView) : Prop where
  userId : view.userId = m.userId
  role : view.role = m.role
  user : ∃ u ∈ db.users.rows, u.id = m.userId ∧ u.tenantId = m.tenantId ∧ u.email = view.email

theorem shows_of_memberView {m : Membership} {view : MemberView} (read : db.memberView m = some view) :
    Shows db m view := by
  obtain ⟨u, found, rfl⟩ := Option.map_eq_some_iff.mp read
  obtain ⟨there, same⟩ := Table.findFirst_mem found
  have isTheirs : u.id = m.userId ∧ u.tenantId = m.tenantId := by simpa using same
  exact ⟨isTheirs.1, rfl, u, there, isTheirs.1, isTheirs.2, rfl⟩

/-- A membership that is there. -/
theorem Shows.shown {m : Membership} {view : MemberView} (isShown : Shows db m view)
    (inside : m ∈ db.memberships.rows) : Shown db m.tenantId view := by
  obtain ⟨u, there, isUser, isHome, address⟩ := isShown.user
  exact ⟨⟨m, inside, rfl, isShown.userId.symm, isShown.role.symm⟩, u, there, isUser.trans isShown.userId.symm, isHome,
    address⟩

/-- Where the tables fit together, a membership has its user. -/
theorem memberView_of_coherent (coherent : Coherent unicode db) {m : Membership} (inside : m ∈ db.memberships.rows) :
    ∃ view, db.memberView m = some view := by
  obtain ⟨u, there, isUser, isHome⟩ := coherent.members m inside
  have found : (db.users.findFirst fun u => u.id = m.userId && u.tenantId = m.tenantId).isSome = true :=
    List.find?_isSome.mpr ⟨u, there, by simp [isUser, isHome]⟩
  obtain ⟨u', isFound⟩ := Option.isSome_iff_exists.mp found
  exact ⟨toMemberView m u', congrArg (Option.map (toMemberView m)) isFound⟩

/-- What is read of each of many. -/
theorem mapM_eq_some_iff {α β : Type} {f : α → Option β} {as : List α} {bs : List β} :
    as.mapM f = some bs ↔ as.map f = bs.map some := by
  induction as generalizing bs with
  | nil => cases bs <;> simp
  | cons a as ih =>
      rw [List.mapM_cons]
      cases isFirst : f a with
      | none => cases bs <;> simp [isFirst]
      | some b =>
          cases bs with
          | nil => cases as.mapM f <;> simp
          | cons b' bs =>
              have others : as.mapM f = some bs ↔ as.map f = bs.map some := ih
              cases read : as.mapM f with
              | none =>
                  rw [read] at others
                  simp [isFirst, ← others]
              | some bs' =>
                  rw [read] at others
                  simp [isFirst, ← others]

/-- Where each of many can be read, all of them can. -/
theorem exists_map_some {α β : Type} {f : α → Option β} {as : List α} (reads : ∀ a ∈ as, ∃ b, f a = some b) :
    ∃ bs : List β, as.map f = bs.map some := by
  induction as with
  | nil => exact ⟨[], rfl⟩
  | cons a as ih =>
      obtain ⟨b, isFirst⟩ := reads a List.mem_cons_self
      obtain ⟨bs, areOthers⟩ := ih fun a' later => reads a' (List.mem_cons_of_mem _ later)
      exact ⟨b :: bs, by rw [List.map_cons, List.map_cons, isFirst, areOthers]⟩

section Lists

variable {views : List MemberView}

/-- The list of the members shows the memberships, one by one. -/
theorem list_spec (read : Accounts.lookup unicode collation (.membersList t) db = some views) :
    ∃ unsorted, views.Perm unsorted ∧
      (db.memberships.rows.filter fun m => m.tenantId = t).map db.memberView = unsorted.map some := by
  obtain ⟨unsorted, isRead, rfl⟩ := Option.map_eq_some_iff.mp read
  exact ⟨unsorted, List.perm_insertionSort _ _, mapM_eq_some_iff.mp isRead⟩

theorem mem_list_iff (read : Accounts.lookup unicode collation (.membersList t) db = some views) (view : MemberView) :
    view ∈ views ↔ ∃ m ∈ db.memberships.rows, m.tenantId = t ∧ db.memberView m = some view := by
  obtain ⟨unsorted, same, isRead⟩ := list_spec read
  have listed : view ∈ unsorted ↔ some view ∈ unsorted.map some := by simp
  rw [same.mem_iff, listed, ← isRead]
  simp [and_assoc]

/-- Whoever is on the list is a member. -/
theorem shown_of_list (read : Accounts.lookup unicode collation (.membersList t) db = some views) :
    ∀ view ∈ views, Shown db t view := by
  intro view listed
  obtain ⟨m, inside, rfl, isView⟩ := (mem_list_iff read view).mp listed
  exact (shows_of_memberView isView).shown inside

/-- What is shown of the members is what their memberships say. -/
theorem map_of_list {α : Type} {ofView : MemberView → α} {ofMembership : Membership → α}
    (agree : ∀ m view, Shows db m view → ofView view = ofMembership m)
    (read : Accounts.lookup unicode collation (.membersList t) db = some views) :
    (views.map ofView).Perm ((db.memberships.rows.filter fun m => m.tenantId = t).map ofMembership) := by
  obtain ⟨unsorted, same, isRead⟩ := list_spec read
  have values : (db.memberships.rows.filter fun m => m.tenantId = t).map (fun m => some (ofMembership m)) =
      unsorted.map fun view => some (ofView view) := by
    have mapped := congrArg (List.map (Option.map ofView)) isRead
    simp only [List.map_map, Function.comp_def, Option.map_some] at mapped
    rw [← mapped]
    apply List.map_congr_left
    intro m inside
    have shown : db.memberView m ∈ unsorted.map some := isRead ▸ List.mem_map_of_mem inside
    obtain ⟨view, _, isView⟩ := List.mem_map.mp shown
    rw [← isView, Option.map_some, agree m view (shows_of_memberView isView.symm)]
  have plain := congrArg (List.filterMap id) values
  simp only [List.filterMap_map, Function.comp_def, id_eq, List.filterMap_eq_map'] at plain
  rw [plain]
  exact same.map _

/-- Everybody is on the list once. -/
theorem nodup_list (read : Accounts.lookup unicode collation (.membersList t) db = some views) :
    (views.map MemberView.userId).Nodup := by
  have same := map_of_list (fun _ _ isShown => isShown.userId) read
  rw [same.nodup_iff]
  have keys : ((db.memberships.rows.filter fun m => m.tenantId = t).map Keyed.key).Nodup :=
    (db.memberships.filter fun m => m.tenantId = t).keysDistinct
  apply List.Nodup.of_map fun u => (t, u)
  rw [List.map_map]
  have sameKeys : (db.memberships.rows.filter fun m => m.tenantId = t).map ((fun u => (t, u)) ∘ Membership.userId) =
      (db.memberships.rows.filter fun m => m.tenantId = t).map Keyed.key := by
    apply List.map_congr_left
    intro m inside
    have own : m.tenantId = t := of_decide_eq_true (List.mem_filter.mp inside).2
    exact Prod.ext own.symm rfl
  rw [sameKeys]
  exact keys

theorem sorted_list (read : Accounts.lookup unicode collation (.membersList t) db = some views) :
    views.Pairwise fun a b => collation.le a.email b.email := by
  obtain ⟨unsorted, _, rfl⟩ := Option.map_eq_some_iff.mp read
  have total : Std.Total fun a b : MemberView => collation.le a.email b.email := ⟨fun a b => collation.total _ _⟩
  have trans : IsTrans MemberView fun a b => collation.le a.email b.email := ⟨fun a b c => collation.trans _ _ _⟩
  exact List.pairwise_insertionSort _ unsorted

/-- Where the tables fit together, the list is answered. -/
theorem list_of_coherent (coherent : Coherent unicode db) :
    ∃ views, Accounts.lookup unicode collation (.membersList t) db = some views := by
  obtain ⟨unsorted, isMap⟩ := exists_map_some fun m inside => memberView_of_coherent coherent
    (List.mem_of_mem_filter (p := fun m : Membership => m.tenantId = t) inside)
  exact ⟨_, congrArg (Option.map _) (mapM_eq_some_iff.mpr isMap)⟩

/-- Whoever is looked up is shown as they are on the list. -/
theorem findById_of_list (coherent : Coherent unicode db)
    (read : Accounts.lookup unicode collation (.membersList t) db = some views) (u : UserId) :
    Accounts.lookup unicode collation (.membersFindById t u) db =
      some (views.find? fun view => view.userId = u) := by
  cases found : db.memberships.find? (t, u) with
  | none =>
      have nobody : views.find? (fun view => view.userId = u) = none := by
        apply List.find?_eq_none.mpr
        intro view listed isTheirs
        obtain ⟨m, inside, own, isView⟩ := (mem_list_iff read view).mp listed
        have theirs : m.userId = u := (shows_of_memberView isView).userId.symm.trans (of_decide_eq_true isTheirs)
        have isKey := Table.find?_key inside
        rw [show Keyed.key m = (t, u) from Prod.ext own theirs, found] at isKey
        cases isKey
      simp only [Accounts.lookup, found, nobody]
  | some m =>
      obtain ⟨view, isView⟩ := memberView_of_coherent coherent (Table.mem_of_find? found)
      obtain ⟨own, theirs⟩ := Prod.mk.inj (Table.key_of_find? found)
      have shows := shows_of_memberView isView
      have listed := (mem_list_iff read view).mpr ⟨m, Table.mem_of_find? found, own, isView⟩
      have first : views.find? (fun view => view.userId = u) = some view := by
        have isFound : (views.find? fun view => view.userId = u).isSome = true :=
          List.find?_isSome.mpr ⟨view, listed, decide_eq_true (shows.userId.trans theirs)⟩
        obtain ⟨other, isOther⟩ := Option.isSome_iff_exists.mp isFound
        have isTheirs : other.userId = u := by simpa using List.find?_some isOther
        have same : other.userId = view.userId := isTheirs.trans (shows.userId.trans theirs).symm
        rw [isOther, List.inj_on_of_nodup_map (nodup_list read) (List.mem_of_find?_eq_some isOther) listed same]
      simp only [Accounts.lookup, found, isView, Option.map_some, first]

end Lists

/-- Whoever has a membership is found by it. -/
theorem shown_of_found {claims : AccessTokenClaims} {found : Option MemberView} (member : Member db claims)
    (read : Accounts.lookup unicode collation (.membersFindById claims.tenantId claims.userId) db = some found) :
    ∃ view, found = some view ∧ Shown db claims.tenantId view ∧ view.userId = claims.userId := by
  obtain ⟨m, inside, tenant, user, _⟩ := member
  have isKey : db.memberships.find? (claims.tenantId, claims.userId) = some m := by
    rw [← tenant, ← user]
    exact Table.find?_key inside
  simp only [Accounts.lookup, isKey] at read
  obtain ⟨view, isRead, rfl⟩ := Option.map_eq_some_iff.mp read
  have shows := shows_of_memberView isRead
  exact ⟨view, rfl, tenant ▸ shows.shown inside, shows.userId.trans user⟩

end Helpdesk.Iam
