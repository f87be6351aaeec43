import BitwardenRs.Chrono
import Mathlib.Data.List.Nodup

/-!
# The persisted state

The records the trust layer reads – users, devices, organization memberships
– and the one it writes, `EmergencyAccess`. Only the emergency-access table is
written by the code modelled here, so only it gets the structure of a table:
rows with at most one row per primary key (`EmergencyAccessTable.nodup`), and
the foreign keys from `grantor_uuid` and `grantee_uuid` into `users` that the
databases enforce.

`EmergencyAccess::save` is an upsert written twice. On SQLite and MySQL it is
`REPLACE INTO`, and when that fails on a foreign key it falls back to an
`UPDATE` of the row with the same key; on PostgreSQL it is
`INSERT .. ON CONFLICT (uuid) DO UPDATE`. Both branches are modelled with the
foreign-key check the database makes; the other errors a statement can return
(a lost connection, a locked database) are left out, so here `save` fails only
on a foreign key. When the referenced users exist both are the same upsert
(`save_of_referencesExist`), and either way they touch no other row
(`find_save_of_ne`). When the users do not exist and the record is not stored
yet, they part: SQLite and MySQL return `Ok` with nothing stored, PostgreSQL
returns the error (`save_sqlite_eq_postgresql_iff`).

`save` reads the clock twice, in `User::update_uuid_revision` and for
`updated_at`; both readings are the one instant `now` here. The load of
`find_all_recoveries` is an `.expect` that the model does not fail.

The mails of the jobs read a user's address and name only (`User.contact`),
which no write here changes (`EmergencyAccess.save_contacts`).

The lookups of `User`, `Device` and `UserOrganization` are not under `src/`;
they are the lookups by key the spec describes.
-/

namespace BitwardenRs

/-- A row of `users`, with the fields the modelled code reads or writes. -/
structure User where
  uuid : String
  email : String
  name : String
  securityStamp : String
  updatedAt : NaiveDateTime
  deriving DecidableEq

/-- What the mails of the jobs read of a user: its address and its name. -/
def User.contact (u : User) : String × String := (u.email, u.name)

/-- A row of `devices`, with the field the modelled code reads: its key. -/
structure Device where
  uuid : String
  deriving DecidableEq

/-- `UserOrgStatus`. -/
inductive UserOrgStatus
  | Invited
  | Accepted
  | Confirmed
  deriving DecidableEq

/-- The `i32` a `UserOrgStatus` is stored as. -/
def UserOrgStatus.toI32 : UserOrgStatus → I32
  | Invited => ⟨0, by decide⟩
  | Accepted => ⟨1, by decide⟩
  | Confirmed => ⟨2, by decide⟩

/-- `UserOrgType`, the role of a member. -/
inductive UserOrgType
  | Owner
  | Admin
  | User
  | Manager
  deriving DecidableEq

/-- The `i32` a `UserOrgType` is stored as. -/
def UserOrgType.toI32 : UserOrgType → I32
  | Owner => ⟨0, by decide⟩
  | Admin => ⟨1, by decide⟩
  | User => ⟨2, by decide⟩
  | Manager => ⟨3, by decide⟩

/-- A row of `users_organizations`: a user's membership of an organization,
with the fields the guards read. -/
structure UserOrganization where
  userUuid : String
  orgUuid : String
  atype : I32
  status : I32
  deriving DecidableEq

/-- **An `EmergencyAccess` record**, every column of the row. -/
structure EmergencyAccess where
  uuid : String
  grantorUuid : String
  granteeUuid : Option String
  email : Option String
  keyEncrypted : Option String
  atype : I32
  status : I32
  waitTimeDays : I32
  recoveryInitiatedAt : Option NaiveDateTime
  lastNotificationAt : Option NaiveDateTime
  updatedAt : NaiveDateTime
  createdAt : NaiveDateTime
  deriving DecidableEq

/-- `EmergencyAccessType`. -/
inductive EmergencyAccessType
  | View
  | Takeover
  deriving DecidableEq

/-- The `i32` an `EmergencyAccessType` is stored as. -/
def EmergencyAccessType.toI32 : EmergencyAccessType → I32
  | View => ⟨0, by decide⟩
  | Takeover => ⟨1, by decide⟩

/-- `EmergencyAccessStatus`. -/
inductive EmergencyAccessStatus
  | Invited
  | Accepted
  | Confirmed
  | RecoveryInitiated
  | RecoveryApproved
  deriving DecidableEq

/-- The `i32` an `EmergencyAccessStatus` is stored as. -/
def EmergencyAccessStatus.toI32 : EmergencyAccessStatus → I32
  | Invited => ⟨0, by decide⟩
  | Accepted => ⟨1, by decide⟩
  | Confirmed => ⟨2, by decide⟩
  | RecoveryInitiated => ⟨3, by decide⟩
  | RecoveryApproved => ⟨4, by decide⟩

/-- `get_atype_as_str`, spelling included. -/
def EmergencyAccess.getAtypeAsStr (e : EmergencyAccess) : String :=
  if e.atype = EmergencyAccessType.View.toI32 then "View" else "Takeovver"

/-! ## The `emergency_accesses` table -/

/-- **The `emergency_accesses` table**: its rows, at most one per primary
key. -/
structure EmergencyAccessTable where
  /-- The rows, in the order a full scan returns them. -/
  rows : List EmergencyAccess
  /-- `uuid` is the primary key. -/
  nodup : (rows.map EmergencyAccess.uuid).Nodup

namespace EmergencyAccessTable

/-- The row with a primary key. -/
def find (t : EmergencyAccessTable) (uuid : String) : Option EmergencyAccess :=
  t.rows.find? (·.uuid == uuid)

/-- Rows found by `find` have the key looked up. -/
theorem find_uuid {t : EmergencyAccessTable} {u : String} {e : EmergencyAccess}
    (h : t.find u = some e) : e.uuid = u := by
  simpa using List.find?_some h

/-- With one row per key, `find` returns a row exactly when it is in the
table. -/
theorem find_eq_some_iff {t : EmergencyAccessTable} {u : String} {e : EmergencyAccess} :
    t.find u = some e ↔ e ∈ t.rows ∧ e.uuid = u := by
  refine ⟨fun h => ⟨List.mem_of_find?_eq_some h, find_uuid h⟩, fun ⟨he, hu⟩ => ?_⟩
  obtain ⟨e', he'⟩ := Option.isSome_iff_exists.mp
    (List.find?_isSome.mpr ⟨e, he, by simp [hu]⟩ : (t.rows.find? (·.uuid == u)).isSome)
  have hmem := List.mem_of_find?_eq_some he'
  have hu' := find_uuid (t := t) he'
  have : e' = e := List.inj_on_of_nodup_map t.nodup hmem he (hu'.trans hu.symm)
  rw [find, he', this]

/-- `REPLACE INTO` a row: any row with its key goes, and it is appended. -/
def replace (t : EmergencyAccessTable) (r : EmergencyAccess) : EmergencyAccessTable where
  rows := t.rows.filter (·.uuid != r.uuid) ++ [r]
  nodup := by
    rw [List.map_append, List.nodup_append]
    refine ⟨t.nodup.sublist ((List.filter_sublist _).map _), List.nodup_singleton _, ?_⟩
    simp [List.disjoint_singleton]

/-- `UPDATE .. SET <every column> WHERE uuid = ..`: the row with its key, if
any, is overwritten in place. -/
def update (t : EmergencyAccessTable) (r : EmergencyAccess) : EmergencyAccessTable where
  rows := t.rows.map fun x => if x.uuid = r.uuid then r else x
  nodup := by
    rw [List.map_map]
    convert t.nodup using 1
    refine List.map_congr_left fun x _ => ?_
    by_cases h : x.uuid = r.uuid <;> simp [h]

/-- `DELETE .. WHERE uuid = ..`. -/
def delete (t : EmergencyAccessTable) (uuid : String) : EmergencyAccessTable where
  rows := t.rows.filter (·.uuid != uuid)
  nodup := t.nodup.sublist ((List.filter_sublist _).map _)

/-- `find?` over a filter that keeps every candidate is `find?` over the
list. -/
theorem find?_filter_of_imp {l : List EmergencyAccess} {p q : EmergencyAccess → Bool}
    (h : ∀ x, q x = true → p x = true) : (l.filter p).find? q = l.find? q := by
  induction l with
  | nil => rfl
  | cons x xs ih =>
    by_cases hq : q x = true
    · simp [List.filter_cons, h x hq, hq]
    · by_cases hp : p x = true <;> simp [List.filter_cons, hp, hq, ih]

theorem ne_of_beq {x : EmergencyAccess} {u v : String} (hx : (x.uuid == u) = true)
    (h : v ≠ u) : (x.uuid != v) = true := by
  simp only [beq_iff_eq] at hx
  simpa [hx] using Ne.symm h

@[simp] theorem find_replace (t : EmergencyAccessTable) (r : EmergencyAccess) (u : String) :
    (t.replace r).find u = if r.uuid = u then some r else t.find u := by
  unfold find replace
  by_cases h : r.uuid = u
  · subst h
    rw [List.find?_append, List.find?_eq_none.mpr (by simp)]
    simp
  · rw [List.find?_append, find?_filter_of_imp (fun x hx => ne_of_beq hx h)]
    cases t.rows.find? (·.uuid == u) <;> simp [h]

theorem find?_map_overwrite (l : List EmergencyAccess) (r : EmergencyAccess) (u : String) :
    (l.map fun x => if x.uuid = r.uuid then r else x).find? (·.uuid == u) =
      if r.uuid = u then (l.find? (·.uuid == u)).map fun _ => r else l.find? (·.uuid == u) := by
  induction l with
  | nil => simp
  | cons x xs ih =>
    by_cases hx : x.uuid = r.uuid
    · by_cases hr : r.uuid = u <;> simp_all
    · by_cases hxu : x.uuid = u
      · subst hxu; simp [hx, Ne.symm hx]
      · simp_all

@[simp] theorem find_update (t : EmergencyAccessTable) (r : EmergencyAccess) (u : String) :
    (t.update r).find u = if r.uuid = u then (t.find u).map fun _ => r else t.find u :=
  find?_map_overwrite t.rows r u

@[simp] theorem find_delete (t : EmergencyAccessTable) (uuid u : String) :
    (t.delete uuid).find u = if uuid = u then none else t.find u := by
  unfold find delete
  by_cases h : uuid = u
  · subst h
    exact if_pos rfl ▸ List.find?_eq_none.mpr (by simp)
  · rw [if_neg h, find?_filter_of_imp (fun x hx => ne_of_beq hx h)]

/-- The rows with a given status, in table order (`filter(status.eq(..))`). -/
def withStatus (t : EmergencyAccessTable) (status : I32) : List EmergencyAccess :=
  t.rows.filter (·.status == status)

theorem withStatus_nodup (t : EmergencyAccessTable) (status : I32) :
    ((t.withStatus status).map EmergencyAccess.uuid).Nodup :=
  t.nodup.sublist ((List.filter_sublist _).map _)

theorem mem_withStatus {t : EmergencyAccessTable} {status : I32} {e : EmergencyAccess} :
    e ∈ t.withStatus status ↔ t.find e.uuid = some e ∧ e.status = status := by
  simp [withStatus, find_eq_some_iff]

end EmergencyAccessTable

/-! ## The database -/

/-- **The database** as the modelled code sees it. -/
structure Db where
  users : List User
  devices : List Device
  usersOrganizations : List UserOrganization
  emergencyAccesses : EmergencyAccessTable

/-- The database engine behind `db_run!`. -/
inductive DbBackend
  | sqlite
  | mysql
  | postgresql
  deriving DecidableEq

/-- The failures of a statement the model can produce: a foreign key. -/
inductive DbError
  | ForeignKeyViolation
  deriving DecidableEq

namespace Db

/-- Modelled from the spec: `User::find_by_uuid`, the user with a uuid. -/
def findUser (db : Db) (uuid : String) : Option User :=
  db.users.find? (·.uuid == uuid)

/-- Modelled from the spec: `Device::find_by_uuid`. -/
def findDevice (db : Db) (uuid : String) : Option Device :=
  db.devices.find? (·.uuid == uuid)

/-- Modelled from the spec: `UserOrganization::find_by_user_and_org`, the
membership row of a user in an organization. -/
def findUserOrg (db : Db) (userUuid orgUuid : String) : Option UserOrganization :=
  db.usersOrganizations.find? fun m => m.userUuid == userUuid && m.orgUuid == orgUuid

/-- Modelled from the spec: `User::update_uuid_revision`, which bumps the
`updated_at` of a user so that its clients resync. -/
def updateUuidRevision (db : Db) (uuid : String) (now : NaiveDateTime) : Db :=
  { db with users := db.users.map fun u => if u.uuid = uuid then { u with updatedAt := now } else u }

/-- The row with a key in `emergency_accesses`. -/
def find (db : Db) (uuid : String) : Option EmergencyAccess := db.emergencyAccesses.find uuid

/-- The foreign keys of a row of `emergency_accesses`: its grantor, and its
grantee when it has one, are users. -/
def referencesExist (db : Db) (r : EmergencyAccess) : Bool :=
  (db.users.map User.uuid).contains r.grantorUuid &&
    r.granteeUuid.all (db.users.map User.uuid).contains

/-- `replace_into(emergency_accesses).values(r)`, with foreign keys on. -/
def replaceInto (db : Db) (r : EmergencyAccess) : Except DbError Db :=
  if db.referencesExist r then .ok { db with emergencyAccesses := db.emergencyAccesses.replace r }
  else .error .ForeignKeyViolation

/-- `update(emergency_accesses).filter(uuid.eq(r.uuid)).set(r)`, with foreign
keys on: no row matches when the key is absent, and nothing is checked then. -/
def update (db : Db) (r : EmergencyAccess) : Except DbError Db :=
  if (db.find r.uuid).isNone then .ok db
  else if db.referencesExist r then .ok { db with emergencyAccesses := db.emergencyAccesses.update r }
  else .error .ForeignKeyViolation

/-- `insert_into(emergency_accesses).values(r).on_conflict(uuid).do_update().set(r)`,
with foreign keys on. -/
def insertOnConflictDoUpdate (db : Db) (r : EmergencyAccess) : Except DbError Db :=
  if db.referencesExist r then .ok { db with emergencyAccesses := db.emergencyAccesses.replace r }
  else .error .ForeignKeyViolation

@[simp] theorem emergencyAccesses_updateUuidRevision (db : Db) (uuid : String)
    (now : NaiveDateTime) :
    (db.updateUuidRevision uuid now).emergencyAccesses = db.emergencyAccesses := rfl

theorem users_uuid_updateUuidRevision (db : Db) (uuid : String) (now : NaiveDateTime) :
    (db.updateUuidRevision uuid now).users.map User.uuid = db.users.map User.uuid := by
  simp only [updateUuidRevision, List.map_map]
  exact List.map_congr_left fun x _ => by by_cases h : x.uuid = uuid <;> simp [h]

@[simp] theorem referencesExist_updateUuidRevision (db : Db) (uuid : String)
    (now : NaiveDateTime) (r : EmergencyAccess) :
    (db.updateUuidRevision uuid now).referencesExist r = db.referencesExist r := by
  simp only [referencesExist, users_uuid_updateUuidRevision]

/-- Bumping a revision bumps the user found under that uuid. -/
theorem findUser_updateUuidRevision (db : Db) (uuid : String) (now : NaiveDateTime) (u : String) :
    (db.updateUuidRevision uuid now).findUser u =
      (db.findUser u).map fun g => if g.uuid = uuid then { g with updatedAt := now } else g := by
  simp only [findUser, updateUuidRevision, List.find?_map]
  congr 2
  funext g
  by_cases h : g.uuid = uuid <;> simp [h]

/-- **What the mails read of the store**: the address and the name of the
user with each uuid. -/
def contacts (db : Db) (uuid : String) : Option (String × String) :=
  (db.findUser uuid).map User.contact

/-- Bumping a revision changes no address or name. -/
theorem contacts_updateUuidRevision (db : Db) (uuid : String) (now : NaiveDateTime) :
    (db.updateUuidRevision uuid now).contacts = db.contacts := by
  funext u
  rw [contacts, contacts, findUser_updateUuidRevision, Option.map_map]
  congr 1
  funext g
  by_cases h : g.uuid = uuid <;> simp [h, User.contact]

/-- A user found in a store is found, with the same address and name, in a
store with the same contacts. -/
theorem findUser_of_contacts {db db' : Db} (hc : db.contacts = db'.contacts) {u : String} {g : User}
    (h : db.findUser u = some g) : ∃ g', db'.findUser u = some g' ∧ g'.contact = g.contact := by
  have hu := congrFun hc u
  rw [contacts, contacts, h, Option.map_some'] at hu
  exact Option.map_eq_some'.1 hu.symm

end Db

/-! ## `EmergencyAccess::save`, `delete` and `find_all_recoveries` -/

namespace EmergencyAccess

/-- **`EmergencyAccess::save`**: bump the grantor's revision, stamp
`updated_at`, and upsert the row the way the backend does. -/
def save (self : EmergencyAccess) (backend : DbBackend) (now : NaiveDateTime) (db : Db) :
    Except String Db :=
  let db := db.updateUuidRevision self.grantorUuid now
  let self := { self with updatedAt := now }
  match backend with
  | .sqlite | .mysql =>
    match db.replaceInto self with
    | .ok db => .ok db
    | .error .ForeignKeyViolation =>
      match db.update self with
      | .ok db => .ok db
      | .error _ => .error "Error saving emergency access"
  | .postgresql =>
    match db.insertOnConflictDoUpdate self with
    | .ok db => .ok db
    | .error _ => .error "Error saving emergency access"

/-- **`EmergencyAccess::delete`**: bump the grantor's revision and delete the
row with this key. -/
def delete (self : EmergencyAccess) (now : NaiveDateTime) (db : Db) : Db :=
  let db := db.updateUuidRevision self.grantorUuid now
  { db with emergencyAccesses := db.emergencyAccesses.delete self.uuid }

/-- `find_all_recoveries`: the rows in `RecoveryInitiated`. -/
def findAllRecoveries (db : Db) : List EmergencyAccess :=
  db.emergencyAccesses.withStatus EmergencyAccessStatus.RecoveryInitiated.toI32

variable {r : EmergencyAccess} {backend : DbBackend} {now : NaiveDateTime} {db db' : Db}

/-- **What `save` does**, on each backend: with the users it names present it
stores the stamped row; otherwise SQLite and MySQL fall back to an `UPDATE`,
which fails when the row exists and matches nothing – and so succeeds – when it
does not; PostgreSQL fails. -/
theorem save_eq : r.save backend now db =
    if db.referencesExist r then
      .ok { db.updateUuidRevision r.grantorUuid now with
        emergencyAccesses := db.emergencyAccesses.replace { r with updatedAt := now } }
    else if backend ≠ .postgresql ∧ db.find r.uuid = none then
      .ok (db.updateUuidRevision r.grantorUuid now)
    else .error "Error saving emergency access" := by
  have hr : db.referencesExist { r with updatedAt := now } = db.referencesExist r := rfl
  by_cases h : db.referencesExist r
  · cases backend <;>
      simp [save, Db.replaceInto, Db.insertOnConflictDoUpdate, h, hr]
  · cases hf : db.emergencyAccesses.find r.uuid <;> cases backend <;>
      simp [save, Db.replaceInto, Db.update, Db.insertOnConflictDoUpdate, h, hr, hf, Db.find]

/-- **`save` is an upsert when the users the row names exist**, on every
backend: the row is stored with the new `updated_at`. -/
theorem save_of_referencesExist (h : db.referencesExist r = true) :
    ∃ db', r.save backend now db = .ok db' ∧ db'.find r.uuid = some { r with updatedAt := now } ∧
      ∀ u, u ≠ r.uuid → db'.find u = db.find u :=
  ⟨_, by rw [save_eq, if_pos h], by simp [Db.find], fun u hu => by simp [Db.find, Ne.symm hu]⟩

/-- `save` touches no row but its own. -/
theorem find_save_of_ne (h : r.save backend now db = .ok db') {u : String} (hu : u ≠ r.uuid) :
    db'.find u = db.find u := by
  rw [save_eq] at h
  split at h
  · cases h; simp [Db.find, Ne.symm hu]
  · split at h
    · cases h; rfl
    · cases h

/-- What `save` leaves at its own key: the stamped record, or – only on
SQLite and MySQL, when the foreign keys fail and there was no row – still no
row. -/
theorem find_save_self (h : r.save backend now db = .ok db') :
    db'.find r.uuid = some { r with updatedAt := now } ∨
      (backend ≠ .postgresql ∧ db.referencesExist r = false ∧ db.find r.uuid = none ∧
        db'.find r.uuid = none) := by
  rw [save_eq] at h
  split at h
  · cases h; left; simp [Db.find]
  · rename_i hr
    split at h
    · rename_i hb
      cases h
      exact .inr ⟨hb.1, by simpa using hr, hb.2, hb.2⟩
    · cases h

/-- `save` changes no user's address or name. -/
theorem save_contacts (h : r.save backend now db = .ok db') : db'.contacts = db.contacts := by
  rw [save_eq] at h
  split at h
  · cases h; exact Db.contacts_updateUuidRevision db _ now
  · split at h
    · cases h; exact Db.contacts_updateUuidRevision db _ now
    · cases h

/-- The records `find_all_recoveries` returns are rows of the table in
`RecoveryInitiated`, one per key. -/
theorem mem_findAllRecoveries {e : EmergencyAccess} :
    e ∈ findAllRecoveries db ↔
      db.find e.uuid = some e ∧ e.status = EmergencyAccessStatus.RecoveryInitiated.toI32 :=
  EmergencyAccessTable.mem_withStatus

theorem findAllRecoveries_nodup : ((findAllRecoveries db).map EmergencyAccess.uuid).Nodup :=
  EmergencyAccessTable.withStatus_nodup _ _

/-! ## The two branches of `save`

`db_run!` runs the SQLite branch on MySQL too, so there are two upserts to
compare. Where the users the record names exist they do the same thing
(`save_of_referencesExist`). Where they do not, the `UPDATE` SQLite and MySQL
fall back on matches no row when the record is not stored yet, and succeeds:
the comment on that branch expects the record to exist. -/

/-- MySQL runs the SQLite branch. -/
theorem save_mysql : r.save .mysql now db = r.save .sqlite now db := rfl

/-- **The two branches agree exactly when the users the record names exist or
the record is stored**: otherwise SQLite and MySQL return `Ok` and store
nothing, and PostgreSQL returns the error. -/
theorem save_sqlite_eq_postgresql_iff :
    r.save .sqlite now db = r.save .postgresql now db ↔
      db.referencesExist r = true ∨ db.find r.uuid ≠ none := by
  rw [save_eq, save_eq]
  by_cases href : db.referencesExist r = true
  · simp [href]
  · cases hf : db.find r.uuid <;> simp [href, hf]

end EmergencyAccess

/-! ## Sample records -/

/-- 2024-01-01T00:00:00. -/
def jan1 : NaiveDateTime := ⟨1704067200000000000, by decide⟩

/-- A recovery that grantee `u2` of grantor `u1` initiated on `jan1`. -/
def sampleRecovery (uuid : String) (waitTimeDays : I32) : EmergencyAccess where
  uuid := uuid
  grantorUuid := "u1"
  granteeUuid := some "u2"
  email := none
  keyEncrypted := none
  atype := EmergencyAccessType.Takeover.toI32
  status := EmergencyAccessStatus.RecoveryInitiated.toI32
  waitTimeDays := waitTimeDays
  recoveryInitiatedAt := some jan1
  lastNotificationAt := none
  updatedAt := jan1
  createdAt := jan1

/-- A wait time of seven days. -/
def sevenDays : I32 := ⟨7, by decide⟩

/-- The grantor and the grantee, and a table of recoveries. -/
def recoveryDb (rows : List EmergencyAccess) (h : (rows.map EmergencyAccess.uuid).Nodup) : Db where
  users := [⟨"u1", "grantor@example.com", "Grantor", "s1", jan1⟩,
    ⟨"u2", "grantee@example.com", "Grantee", "s2", jan1⟩]
  devices := []
  usersOrganizations := []
  emergencyAccesses := ⟨rows, h⟩

/-- The grantor `u1` alone: the grantee `u2` is no longer a user, and no
emergency access is stored. -/
def granteeGoneDb : Db where
  users := [⟨"u1", "grantor@example.com", "Grantor", "s1", jan1⟩]
  devices := []
  usersOrganizations := []
  emergencyAccesses := ⟨[], List.nodup_nil⟩

/-- Saving a record that is not stored and whose grantee is no longer a user:
SQLite and MySQL return `Ok` with no row stored under its key, PostgreSQL
returns the error. In general MySQL runs the SQLite branch, and the two
branches agree exactly when the users the record names exist or the record is
stored. -/
theorem save_backends_disagree_on_missing_grantee :
    ((sampleRecovery "e1" sevenDays).save .sqlite jan1 granteeGoneDb).map (·.find "e1") = .ok none ∧
      ((sampleRecovery "e1" sevenDays).save .mysql jan1 granteeGoneDb).map (·.find "e1") = .ok none ∧
      (sampleRecovery "e1" sevenDays).save .postgresql jan1 granteeGoneDb =
        .error "Error saving emergency access" ∧
      ∀ (r : EmergencyAccess) (now : NaiveDateTime) (db : Db),
        r.save .mysql now db = r.save .sqlite now db ∧
        (r.save .sqlite now db = r.save .postgresql now db ↔
          db.referencesExist r = true ∨ db.find r.uuid ≠ none) :=
  ⟨rfl, rfl, rfl, fun _ _ _ => ⟨EmergencyAccess.save_mysql, EmergencyAccess.save_sqlite_eq_postgresql_iff⟩⟩

end BitwardenRs
