import EsosWebui.Users.Writes
import Mathlib.Data.List.Perm.Subperm

/-! The last administrator: which requests keep one, in whatever order they have their turns. -/
namespace EsosWebui.Users

open Js

/-- The requests that change the accounts. -/
inductive Request where
  | patch (currentUser id : Text) (input : UserPatch)
  | delete (currentUser id : Text)
  | provision (providers : AuthProviders) (users : List (ProvisionLdapUserInput × Fresh))
  | login (login : ExternalLogin) (fresh : Fresh)

namespace Request

def program : Request → Db Unit
  | patch currentUser id input => input.handler id currentUser
  | delete currentUser id => UserDeletion.handler id currentUser
  | provision providers users => do
      let _ ← provisionLdapUsers providers users
      return ()
  | login external fresh => do
      let _ ← external.resolve fresh
      return ()

/-- The requests that count the administrators before they write. -/
def Counts : Request → Prop
  | patch .. | delete .. => True
  | _ => False

def IsLogin : Request → Prop
  | login .. => True
  | _ => False

end Request

def HasAdmin (t : UserTable) : Prop := ∃ u ∈ t.rows, u.isActiveAdmin = true

def activeAdmins (t : UserTable) : List Text := (t.rows.filter (·.isActiveAdmin)).map (·.id)

section

variable {t t' : UserTable} {id : Text} {set : UserRow → UserRow}

theorem length_activeAdmins (t : UserTable) : (activeAdmins t).length = t.countAdmins := by
  rw [activeAdmins, List.length_map, UserTable.countAdmins, List.countP_eq_length_filter]

theorem mem_activeAdmins {a : Text} :
    a ∈ activeAdmins t ↔ ∃ u ∈ t.rows, u.isActiveAdmin = true ∧ u.id = a := by
  simp [activeAdmins, and_assoc]

theorem hasAdmin_update (hSame : ∀ u, (set u).isActiveAdmin = u.isActiveAdmin) (h : HasAdmin t) :
    HasAdmin (t.update id set) := by
  obtain ⟨u, hu, hAdmin⟩ := h
  refine ⟨_, UserTable.mem_update.mpr ⟨u, hu, rfl⟩, ?_⟩
  split
  · exact (hSame u).trans hAdmin
  · exact hAdmin

theorem hasAdmin_update_of_admin
    (hKeeps : ∀ u, u.isActiveAdmin = true → (set u).isActiveAdmin = true) (h : HasAdmin t) :
    HasAdmin (t.update id set) := by
  obtain ⟨u, hu, hAdmin⟩ := h
  refine ⟨_, UserTable.mem_update.mpr ⟨u, hu, rfl⟩, ?_⟩
  split
  · exact hKeeps u hAdmin
  · exact hAdmin

theorem hasAdmin_update_of_other (h : ∃ a ∈ activeAdmins t, a ≠ id) :
    HasAdmin (t.update id set) := by
  obtain ⟨a, ha, hNe⟩ := h
  obtain ⟨u, hu, hAdmin, rfl⟩ := mem_activeAdmins.mp ha
  refine ⟨u, UserTable.mem_update.mpr ⟨u, hu, if_neg hNe⟩, hAdmin⟩

theorem hasAdmin_delete_of_other (h : ∃ a ∈ activeAdmins t, a ≠ id) :
    HasAdmin (t.deleteUser id) := by
  obtain ⟨a, ha, hNe⟩ := h
  obtain ⟨u, hu, hAdmin, rfl⟩ := mem_activeAdmins.mp ha
  exact ⟨u, List.mem_filter.mpr ⟨hu, by simpa using hNe⟩, hAdmin⟩

theorem hasAdmin_insert (row : UserRow) (h : HasAdmin t) : HasAdmin (t.insert row).1 := by
  obtain ⟨u, hu, hAdmin⟩ := h
  unfold UserTable.insert
  split
  · exact ⟨u, hu, hAdmin⟩
  · split
    · exact ⟨u, hu, hAdmin⟩
    · exact ⟨u, List.mem_append_left _ hu, hAdmin⟩

theorem hasAdmin_link {userId : Text} {authSource : AuthSource} {issuer subject : Text}
    (h : HasAdmin t) :
    HasAdmin (t.linkUserToFederatedIdentity userId authSource issuer subject).1 := by
  unfold UserTable.linkUserToFederatedIdentity
  split
  · exact h
  · exact hasAdmin_update (fun _ => rfl) h

theorem exists_other_of_count (h : 2 ≤ t.countAdmins) : ∃ a ∈ activeAdmins t, a ≠ id := by
  have hNodup : (activeAdmins t).Nodup := t.idUnique.sublist (List.filter_sublist.map _)
  rw [← length_activeAdmins] at h
  by_contra hNone
  push Not at hNone
  have hLe : (activeAdmins t).length ≤ [id].length :=
    (List.subperm_of_subset hNodup fun a ha => List.mem_singleton.mpr (hNone a ha)).length_le
  simp only [List.length_singleton] at hLe
  omega

theorem exists_other_of_target {target : UserRow} (hTarget : t.getUserById id = some target)
    (hNot : target.isActiveAdmin = false) (h : HasAdmin t) : ∃ a ∈ activeAdmins t, a ≠ id := by
  obtain ⟨u, hu, hAdmin⟩ := h
  refine ⟨u.id, mem_activeAdmins.mpr ⟨u, hu, hAdmin, rfl⟩, ?_⟩
  rintro rfl
  rw [UserTable.getUserById_of_mem hu] at hTarget
  rw [Option.some.inj hTarget, hNot] at hAdmin
  cases hAdmin

end

theorem hasAdmin_of_loginWrite {t t' : UserTable} (hWrite : LoginWrite t t') (h : HasAdmin t) :
    HasAdmin t' := by
  cases hWrite with
  | read => exact h
  | touched userId now => exact hasAdmin_update (fun _ => rfl) h
  | linked userId authSource issuer subject => exact hasAdmin_link h
  | created row => exact hasAdmin_insert row h

theorem keepsAdmins_login (login : ExternalLogin) (fresh : Fresh) :
    (login.resolve fresh).Always fun t t' => HasAdmin t → HasAdmin t' :=
  (writesAsLogin login fresh).mono fun _ _ => hasAdmin_of_loginWrite

section

variable {t : UserTable} {id currentUser : Text}

/-- Every turn keeps an administrator as long as nobody else changes who they are. -/
abbrev KeepsUnlessOvertaken {α : Type} (p : Db α) (t : UserTable) : Prop :=
  p.Keeps activeAdmins HasAdmin t

theorem keepsUnlessOvertaken_write (input : UserPatch)
    (h : (∃ a ∈ activeAdmins t, a ≠ id) ∨
      (∀ u : UserRow, u.isActiveAdmin = true → (input.set u).isActiveAdmin = true)) :
    KeepsUnlessOvertaken (input.write id) t := by
  refine Async.keeps_modify (fun t' hSame hAdmin => ?_) fun t' _ _ => ?_
  · rcases h with hOther | hKeeps
    · exact hasAdmin_update_of_other (hSame ▸ hOther)
    · exact hasAdmin_update_of_admin hKeeps hAdmin
  · split
    · exact .turn (fun _ _ h => hasAdmin_update (fun _ => rfl) h) fun _ _ _ => .done _ _
    · exact .done _ _

theorem isActiveAdmin_set {input : UserPatch} (hRole : input.role = some .admin)
    (hActive : input.active ≠ some false) {u : UserRow} (hu : u.isActiveAdmin) :
    (input.set u).isActiveAdmin := by
  simp only [UserRow.isActiveAdmin, Bool.and_eq_true, beq_iff_eq] at hu
  simp only [UserRow.isActiveAdmin, UserPatch.set, hRole]
  cases hInput : input.active with
  | none => simpa using hu.2
  | some active =>
    cases active with
    | true => rfl
    | false => exact absurd hInput hActive

theorem keepsUnlessOvertaken_patch (input : UserPatch) (t : UserTable) :
    KeepsUnlessOvertaken (input.handler id currentUser) t := by
  refine Async.keeps_read fun t _ hAdmin => ?_
  cases hTarget : t.getUserById id with
  | none => exact .failed _ _
  | some target =>
    simp only [UserPatch.found]
    split
    · exact .failed _ _
    · split
      · refine Async.keeps_read fun t _ _ => ?_
        unfold UserPatch.counted
        split
        · exact .failed _ _
        · rename_i hAccepted
          apply keepsUnlessOvertaken_write
          by_cases hCount : 2 ≤ t.countAdmins
          · exact Or.inl (exists_other_of_count hCount)
          · right
            have hOne : t.countAdmins ≤ 1 := by omega
            have hInput : ¬ (input.role ≠ some .admin ∨ input.active = some false) :=
              fun h => hAccepted ⟨hOne, h⟩
            push Not at hInput
            exact fun u hu => isActiveAdmin_set hInput.1 hInput.2 hu
      · rename_i hNot
        have hOther := exists_other_of_target hTarget (by simpa using hNot) hAdmin
        exact keepsUnlessOvertaken_write input (Or.inl hOther)

theorem keepsUnlessOvertaken_delete (t : UserTable) :
    KeepsUnlessOvertaken (UserDeletion.handler id currentUser) t := by
  have hWrite {t : UserTable} (h : ∃ a ∈ activeAdmins t, a ≠ id) :
      KeepsUnlessOvertaken (UserDeletion.write id) t :=
    .turn (fun _ hSame _ => hasAdmin_delete_of_other (hSame ▸ h)) fun _ _ _ => .done _ _
  unfold UserDeletion.handler
  split
  · exact .failed _ _
  · refine Async.keeps_read fun t _ hAdmin => ?_
    cases hTarget : t.getUserById id with
    | none => exact .failed _ _
    | some target =>
      simp only [UserDeletion.found]
      split
      · refine Async.keeps_read fun t _ _ => ?_
        unfold UserDeletion.counted
        split
        · exact .failed _ _
        · exact hWrite (exists_other_of_count (by omega))
      · rename_i hNot
        exact hWrite (exists_other_of_target hTarget (by simpa using hNot) hAdmin)

end

abbrev Accounts := Processes Request UserTable HttpError Unit

abbrev accountStep := Processes.step (κ := List Text) Request.program activeAdmins

/-- A turn of the provisioning, or of a change or deletion that was overtaken by another change of
the administrators, does not take the last one away. -/
abbrev LastAdminSpared : Event Request → Accounts → Prop :=
  Processes.NotLost HasAdmin Request.IsLogin Request.Counts

/-- In every state of a run there is an active administrator. -/
def AlwaysAdmin (t : UserTable) (allowed : Event Request → Accounts → Prop) : Prop :=
  ∀ events c, HasAdmin t → Run accountStep allowed ⟨t, []⟩ events c → HasAdmin c.state

/-- A change that leaves the last administrator his role and activity is accepted exactly when
`accepts` says so. -/
def LeavesLastAdmin (t : UserTable) (accepts : Text → Text → UserPatch → Prop) : Prop :=
  ∀ (u : UserRow) (currentUser : Text) (input : UserPatch),
    u ∈ t.rows → u.isActiveAdmin = true → t.countAdmins = 1 →
    (input.role = none ∨ input.role = some .admin) →
    (input.active = none ∨ input.active = some true) →
    ((∃ t', (input.handler u.id currentUser).run t = (t', .ok ())) ↔ accepts currentUser u.id input)

theorem alwaysAdmin (t : UserTable) : AlwaysAdmin t LastAdminSpared := by
  intro events c hAdmin hRun
  refine Processes.keeps_run (fun r hLogin => ?_) (fun r hCounts t => ?_) hAdmin hRun
  · cases r with
    | login login fresh => exact (keepsAdmins_login login fresh).bind fun _ => .done ()
    | _ => cases hLogin
  · cases r with
    | patch currentUser id input => exact keepsUnlessOvertaken_patch input t
    | delete currentUser id => exact keepsUnlessOvertaken_delete t
    | _ => cases hCounts

theorem exists_run_write (input : UserPatch) (id : Text) (t : UserTable) :
    ∃ t', (input.write id).run t = (t', .ok ()) := by
  obtain ⟨displayName, role, active⟩ := input
  cases role <;> cases active <;> exact ⟨_, rfl⟩

theorem leavesLastAdmin (t : UserTable) : LeavesLastAdmin t fun currentUser id input =>
    id ≠ currentUser ∧ input.role = some .admin := by
  intro u currentUser input hu hAdmin hCount hRole hActive
  have hRun : (input.handler u.id currentUser).run t =
      (input.found u.id currentUser (some u)).run t := by
    rw [← UserTable.getUserById_of_mem hu]
    rfl
  have hNotFalse : input.active ≠ some false := by
    rcases hActive with h | h <;> simp [h]
  rw [hRun]
  simp only [UserPatch.found, hNotFalse, or_false, hAdmin, if_true]
  by_cases hSelf : u.id = currentUser ∧ input.role.isSome = true
  · rw [if_pos hSelf]
    constructor
    · rintro ⟨t', h⟩
      cases h
    · rintro ⟨hOther, -⟩
      exact absurd hSelf.1 hOther
  · rw [if_neg hSelf]
    show (∃ t', (input.counted u.id t.countAdmins).run t = (t', .ok ())) ↔ _
    rw [hCount]
    unfold UserPatch.counted
    rcases hRole with hNone | hSome
    · rw [if_pos ⟨le_refl 1, Or.inl (by simp [hNone])⟩]
      constructor
      · rintro ⟨t', h⟩
        cases h
      · rintro ⟨-, h⟩
        rw [hNone] at h
        cases h
    · rw [if_neg (by simp [hSome, hNotFalse])]
      refine iff_of_true (exists_run_write input u.id t) ⟨?_, hSome⟩
      intro hSame
      exact hSelf ⟨hSame, by simp [hSome]⟩

private def sync : AuthProviders where
  ldapEnabled := true
  ldapUrl := ['l']
  ldapBindDn := ['b']
  ldapUsernameAttribute := []
  headerIssuer := []
  jitEnabled := false
  jitDefaultRole := []
  jitDefaultActive := true
  mappingRules := []
  oidcMaxRole := none
  ldapMaxRole := none
  headerMaxRole := none

private def imported : UserRow :=
  { id := ['1'], username := ['n'], role := .admin, active := true, authSource := .ldap
    externalIssuer := some ['l'], externalSubject := some ['d'], externalLogin := some ['n'] }

private def demotion : ProvisionLdapUserInput := { dn := ['d'], login := ['n'], role := .viewer }

private def only : UserTable := ⟨[imported], List.nodup_singleton _⟩

end EsosWebui.Users
