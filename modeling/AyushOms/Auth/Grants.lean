import AyushOms.Auth.Accounts

/-!
# What an Administrative Call Grants

Permissions are read at every request as the union over the roles of the user, so a change of a
role or of a user's roles takes effect at the next request. What it changes is said here for
every user and every permission: the call takes effect as a whole for those it concerns and for
nobody else, whichever of its statements raises.

## Main results

- `updateRole_replaces`: `update_role`, for every holder of the role
- `updateUser_replaces`: `update_user`, for the user alone
-/

namespace AyushOms.Auth

open AyushOms.Lib

variable {db after : AuthDb} {id : UUID}

/-! ## Section 1: A role and its holders -/

/-- The permissions that an update leaves with a role. -/
def Requested (db : AuthDb) (id : UUID) (permissionIds : Option (List UUID)) (code : String) :
    Prop :=
  match permissionIds with
  | none => db.Grants id code
  | some permissionIds => ∃ permissionId ∈ permissionIds, ∃ permission,
      db.getPermission permissionId = some permission ∧ permission.code = code

/-- The role has the requested permissions, and every user holds the roles held before. -/
structure RoleReplaced (id : UUID) (permissionIds : Option (List UUID)) (db after : AuthDb) :
    Prop where
  holders : ∀ v, after.rolesOf v = db.rolesOf v
  codes : ∀ v code, code ∈ after.permissionCodes v ↔
    (∃ r ∈ db.rolesOf v, r.roleId ≠ id ∧ db.Grants r.roleId code) ∨
      (∃ r ∈ db.rolesOf v, r.roleId = id) ∧ Requested db id permissionIds code

/-- The role exists, and so do the permissions asked for, each named once. -/
structure RoleAcceptable (id : UUID) (c : RoleUpdate) (db : AuthDb) : Prop where
  found : (db.getRole id).isSome = true
  permissions : ∀ permissionIds ∈ c.permissionIds, permissionIds.Nodup ∧
    ∀ permissionId ∈ permissionIds, (db.getPermission permissionId).isSome = true

theorem setDescription_grants (description : Option String) {roleId : UUID} {code : String} :
    (setDescription db id description).Grants roleId code ↔ db.Grants roleId code := by
  cases description with
  | none => exact Iff.rfl
  | some description => exact Iff.rfl

theorem setDescription_rolesOf (description : Option String) (v : UUID) :
    (setDescription db id description).rolesOf v = db.rolesOf v := by
  cases description with
  | none => rfl
  | some description => rfl

theorem setDescription_getPermission (description : Option String) (permissionId : UUID) :
    (setDescription db id description).getPermission permissionId =
      db.getPermission permissionId := by
  cases description with
  | none => rfl
  | some description => rfl

/-- What each role grants after its permissions were replaced. -/
theorem grants_synced {permissionIds : List UUID}
    (h : Synced rolePermissionLinks id permissionIds db after) {roleId : UUID} {code : String} :
    after.Grants roleId code ↔
      if roleId = id then Requested db id (some permissionIds) code
      else db.Grants roleId code := by
  have hpermission : ∀ permissionId,
      after.getPermission permissionId = db.getPermission permissionId := by
    obtain ⟨_, table, _, rfl⟩ := synced_rolePermissions.mp h
    exact fun _ => rfl
  simp only [AuthDb.Grants, mem_permissionsOf_synced h, hpermission]
  split
  · simp only [List.mem_map, Requested]
    constructor
    · rintro ⟨_, ⟨permissionId, hmem, rfl⟩, hgrants⟩
      exact ⟨permissionId, hmem, hgrants⟩
    · rintro ⟨permissionId, hmem, hgrants⟩
      exact ⟨_, ⟨permissionId, hmem, rfl⟩, hgrants⟩
  · exact Iff.rfl

theorem rolesOf_synced_rolePermissions {permissionIds : List UUID}
    (h : Synced rolePermissionLinks id permissionIds db after) (v : UUID) :
    after.rolesOf v = db.rolesOf v := by
  obtain ⟨_, table, _, rfl⟩ := synced_rolePermissions.mp h
  rfl

/-- What each role grants after an update. -/
theorem RoleChanged.grants {c : RoleUpdate} (h : RoleChanged id c db after) {roleId : UUID}
    {code : String} :
    after.Grants roleId code ↔
      if roleId = id then Requested db id c.permissionIds code else db.Grants roleId code := by
  have hwritten := h.written
  cases hpermissions : c.permissionIds with
  | none =>
    rw [hpermissions] at hwritten
    obtain rfl := hwritten
    rw [setDescription_grants]
    split
    · rename_i hid
      rw [hid]
      exact Iff.rfl
    · exact Iff.rfl
  | some permissionIds =>
    rw [hpermissions] at hwritten
    rw [grants_synced hwritten]
    simp only [Requested, setDescription_grants, setDescription_getPermission]

theorem RoleChanged.holders {c : RoleUpdate} (h : RoleChanged id c db after) (v : UUID) :
    after.rolesOf v = db.rolesOf v := by
  have hwritten := h.written
  cases hpermissions : c.permissionIds with
  | none =>
    rw [hpermissions] at hwritten
    obtain rfl := hwritten
    exact setDescription_rolesOf _ v
  | some permissionIds =>
    rw [hpermissions] at hwritten
    rw [rolesOf_synced_rolePermissions hwritten, setDescription_rolesOf]

theorem RoleChanged.replaced {c : RoleUpdate} (h : RoleChanged id c db after) :
    RoleReplaced id c.permissionIds db after := by
  refine ⟨h.holders, fun v code => ?_⟩
  rw [mem_permissionCodes, h.holders]
  -- a role the user holds is the one that was updated, or another
  constructor
  · rintro ⟨r, hr, hgrants⟩
    rw [h.grants] at hgrants
    split at hgrants
    · exact .inr ⟨⟨r, hr, ‹_›⟩, hgrants⟩
    · exact .inl ⟨r, hr, ‹_›, hgrants⟩
  · rintro (⟨r, hr, hother, hgrants⟩ | ⟨⟨r, hr, hid⟩, hrequested⟩)
    · exact ⟨r, hr, by rwa [h.grants, if_neg hother]⟩
    · exact ⟨r, hr, by rwa [h.grants, if_pos hid]⟩

/-- An update of a role goes through exactly when what it names is there. -/
theorem exists_roleChanged {c : RoleUpdate} :
    (∃ after, RoleChanged id c db after) ↔ RoleAcceptable id c db := by
  have hroom : ∀ permissionIds, (∃ after, Synced rolePermissionLinks id permissionIds
      (setDescription db id c.description) after) ↔ permissionIds.Nodup ∧
        ∀ permissionId ∈ permissionIds, (db.getPermission permissionId).isSome = true := by
    intro permissionIds
    rw [exists_synced_rolePermissions]
    simp only [setDescription_getPermission]
  constructor
  · rintro ⟨after, hfound, hwritten⟩
    refine ⟨hfound, fun permissionIds hgiven => (hroom permissionIds).mp ⟨after, ?_⟩⟩
    rwa [Option.mem_def.mp hgiven] at hwritten
  · rintro ⟨hfound, hpermissions⟩
    cases hgiven : c.permissionIds with
    | none => exact ⟨setDescription db id c.description, hfound, by rw [hgiven]; rfl⟩
    | some permissionIds =>
      obtain ⟨after, hsynced⟩ := (hroom permissionIds).mpr (hpermissions _ hgiven)
      exact ⟨after, hfound, by rw [hgiven]; exact hsynced⟩

theorem getRole_of_roleChanged {c : RoleUpdate} (h : RoleChanged id c db after) :
    ∃ role, after.getRole id = some role := by
  have hrole : (setDescription db id c.description).getRole id |>.isSome := by
    cases c.description with
    | none => exact h.found
    | some description =>
      have hfind : (setDescription db id (some description)).getRole id =
          (db.getRole id).map fun r => if r.id == id then Role.describe description r else r :=
        db.roles.find?_modify fun _ => rfl
      rw [hfind, Option.isSome_map]
      exact h.found
  refine Option.isSome_iff_exists.mp ?_
  have hwritten := h.written
  cases hpermissions : c.permissionIds with
  | none =>
    rw [hpermissions] at hwritten
    obtain rfl := hwritten
    exact hrole
  | some permissionIds =>
    rw [hpermissions] at hwritten
    obtain ⟨_, table, _, rfl⟩ := synced_rolePermissions.mp hwritten
    exact hrole

/-- Whichever statement of an update of a role raises, the tables stay as they were or every user
holds exactly what the user's other roles grant and, as a holder of the role, what was
requested. When none raises, the update goes through if what it names is there. -/
theorem updateRole_replaces (db : AuthDb) (id : UUID) (c : RoleUpdate) :
    (∀ faults,
      ((RBACService.updateRole id c).run AuthWrite.apply (.fresh db faults)).2.committed = db ∨
      RoleAcceptable id c db ∧ RoleReplaced id c.permissionIds db
        ((RBACService.updateRole id c).run AuthWrite.apply (.fresh db faults)).2.committed) ∧
    (RoleAcceptable id c db → ∃ role after,
      (RBACService.updateRole id c).run AuthWrite.apply (.fresh db fun _ => none) =
        (.ok role, .fresh after fun _ => none) ∧ RoleReplaced id c.permissionIds db after) := by
  refine ⟨fun faults => ?_, fun hacceptable => ?_⟩
  · rcases Txn.Leaves.thenCommit_reads (writes_changeRole id c) (fun _ => reads_getRole id)
      ⟨faults, rfl⟩ with hsame | ⟨_, hyields⟩
    · exact .inl hsame
    · have hchanged := yields_changeRole hyields
      exact .inr ⟨exists_roleChanged.mp ⟨_, hchanged⟩, hchanged.replaced⟩
  · obtain ⟨after, hchanged⟩ := exists_roleChanged.mpr hacceptable
    obtain ⟨role, hrole⟩ := getRole_of_roleChanged hchanged
    refine ⟨role, after, ?_, hchanged.replaced⟩
    refine (completes_changeRole hchanged).thenCommit_bind ?_
    exact Txn.completes_bind Txn.completes_select (Txn.completes_orRaise hrole)

/-! ## Section 2: A user and nobody else -/

/-- The permissions an update leaves the user with. -/
def Held (db : AuthDb) (id : UUID) (roleIds : Option (List UUID)) (code : String) : Prop :=
  match roleIds with
  | none => code ∈ db.permissionCodes id
  | some roleIds => ∃ roleId ∈ roleIds, db.Grants roleId code

/-- The user's columns are set, and the user has the requested roles. -/
structure UserReplaced (id : UUID) (c : UserUpdate) (db after : AuthDb) : Prop where
  users : after.users = (setFields db id c.fields).users
  codes : ∀ v code, code ∈ after.permissionCodes v ↔
    if v = id then Held db id c.roleIds code else code ∈ db.permissionCodes v

/-- What `update_user` asks of the tables. -/
structure UserAcceptable (id : UUID) (c : UserUpdate) (db : AuthDb) : Prop where
  found : (db.getUser id).isSome = true
  leader : ∀ leader ∈ (if c.clearTeamLeader then none else c.teamLeaderId),
    HoldsRole "TEAM_LEADER" db leader
  staff : ∀ staff ∈ (if c.clearShipmentStaff then none else c.shipmentStaffId),
    HoldsRole "SHIPMENT_STAFF" db staff
  roles : ∀ roleIds ∈ c.roleIds, roleIds.Nodup ∧
    ∀ roleId ∈ roleIds, (db.getRole roleId).isSome = true

theorem UserChanged.replaced {c : UserUpdate} (h : UserChanged id c db after) :
    UserReplaced id c db after := by
  have hwritten := h.written
  cases hroles : c.roleIds with
  | none =>
    rw [hroles] at hwritten
    obtain rfl := hwritten
    refine ⟨rfl, fun v code => ?_⟩
    rw [hroles]
    split
    · rename_i hv
      rw [hv]
      exact Iff.rfl
    · exact Iff.rfl
  | some roleIds =>
    rw [hroles] at hwritten
    obtain ⟨_, table, _, htables⟩ := synced_userRoles.mp hwritten
    refine ⟨by rw [htables], fun v code => ?_⟩
    have hgrants : ∀ roleId, after.Grants roleId code ↔ db.Grants roleId code := by
      rw [htables]
      exact fun _ => Iff.rfl
    rw [hroles]
    simp only [mem_permissionCodes, mem_rolesOf_synced hwritten, hgrants, Held]
    split
    · constructor
      · rintro ⟨r, hr, hcode⟩
        obtain ⟨roleId, hroleId, rfl⟩ := List.mem_map.mp hr
        exact ⟨roleId, hroleId, hcode⟩
      · rintro ⟨roleId, hroleId, hcode⟩
        exact ⟨_, List.mem_map.mpr ⟨roleId, hroleId, rfl⟩, hcode⟩
    · exact Iff.rfl

/-- An update of a user goes through exactly when what it names is there. -/
theorem exists_userChanged {c : UserUpdate} :
    (∃ after, UserChanged id c db after) ↔ UserAcceptable id c db := by
  have hroom : ∀ roleIds, (∃ after, Synced userRoleLinks id roleIds
      (setFields db id c.fields) after) ↔
        roleIds.Nodup ∧ ∀ roleId ∈ roleIds, (db.getRole roleId).isSome = true :=
    fun _ => exists_synced_userRoles
  constructor
  · rintro ⟨after, hfound, hleader, hstaff, hwritten⟩
    refine ⟨hfound, hleader, hstaff, fun roleIds hgiven => (hroom roleIds).mp ⟨after, ?_⟩⟩
    rwa [Option.mem_def.mp hgiven] at hwritten
  · rintro ⟨hfound, hleader, hstaff, hroles⟩
    cases hgiven : c.roleIds with
    | none => exact ⟨setFields db id c.fields, hfound, hleader, hstaff, by rw [hgiven]; rfl⟩
    | some roleIds =>
      obtain ⟨after, hsynced⟩ := (hroom roleIds).mpr (hroles roleIds hgiven)
      exact ⟨after, hfound, hleader, hstaff, by rw [hgiven]; exact hsynced⟩

theorem getUser_setFields (db : AuthDb) (id v : UUID) (fields : UserFields) :
    (setFields db id fields).getUser v =
      (db.getUser v).map fun u => if u.id == id then fields.set u else u :=
  db.users.find?_modify fun _ => rfl

/-- Whichever statement of an update of a user raises, the tables stay as they were or the user's
columns are set and the user holds exactly what the requested roles grant; nobody else's
permissions change. When none raises, the update goes through if what it names is there. -/
theorem updateUser_replaces (db : AuthDb) (id : UUID) (c : UserUpdate) :
    (∀ faults,
      ((UserService.updateUser id c).run AuthWrite.apply (.fresh db faults)).2.committed = db ∨
      UserAcceptable id c db ∧ UserReplaced id c db
        ((UserService.updateUser id c).run AuthWrite.apply (.fresh db faults)).2.committed) ∧
    (UserAcceptable id c db → ∃ current after,
      (UserService.updateUser id c).run AuthWrite.apply (.fresh db fun _ => none) =
        (.ok current, .fresh after fun _ => none) ∧ UserReplaced id c db after) := by
  refine ⟨fun faults => ?_, fun hacceptable => ?_⟩
  · rcases Txn.Leaves.thenCommit_reads (writes_changeUser id c) (fun _ => reads_getUser id)
      ⟨faults, rfl⟩ with hsame | ⟨_, hyields⟩
    · exact .inl hsame
    · have hchanged := yields_changeUser hyields
      exact .inr ⟨exists_userChanged.mp ⟨_, hchanged⟩, hchanged.replaced⟩
  · obtain ⟨after, hchanged⟩ := exists_userChanged.mpr hacceptable
    have hreplaced := hchanged.replaced
    -- the user is still there to be read back
    obtain ⟨user, huser⟩ : ∃ user, after.getUser id = some user := by
      refine Option.isSome_iff_exists.mp ?_
      have hlookup : after.getUser id = (setFields db id c.fields).getUser id := by
        rw [AuthDb.getUser, hreplaced.users]
        rfl
      rw [hlookup, getUser_setFields, Option.isSome_map]
      exact hchanged.found
    have hread : getWithPermissions id after = some
        ⟨user, after.roleNames user.id, after.permissionCodes user.id⟩ :=
      Option.map_eq_some_iff.mpr ⟨user, huser, rfl⟩
    exact ⟨_, after, (completes_changeUser hchanged).thenCommit_bind (completes_getUser hread),
      hreplaced⟩

end AyushOms.Auth
