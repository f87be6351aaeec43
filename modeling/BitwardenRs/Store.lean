import BitwardenRs.Lifecycle
import BitwardenRs.Guards

/-!
# The store under requests and jobs

Requests write emergency-access records through `EmergencyAccess::save` and
`EmergencyAccess::delete`; the jobs write them on their timer; the guards
read the users, the devices and the memberships. Here all of them act on one
store, one operation after another (`StoreOp`), each at its own time.

Over every sequence of operations the guards admit the same requests after
it as before: saves, deletes and job runs bump revisions and write records,
but never a uuid, a security stamp, a device or a membership, so no
background run logs anyone out or changes what a member may do
(`storeOps_keep_guard_decisions`).

A failed save leaves the store as it was; the revision bump that `save`
makes before its upsert is left out there, which touches nothing the guards
read.
-/

namespace BitwardenRs

/-! ## Operations on the store -/

/-- **An operation on the store**, at its own time: a request's save of a
record on a backend, a request's delete of a record, or a run of a job. -/
inductive StoreOp
  | save (r : EmergencyAccess) (backend : DbBackend) (now : NaiveDateTime)
  | delete (r : EmergencyAccess) (now : NaiveDateTime)
  | job (run : JobRun)

/-- The store an operation leaves; a save that fails leaves it as it was. -/
def StoreOp.apply : StoreOp → Db → Db
  | .save r backend now, db =>
    match r.save backend now db with
    | .ok db' => db'
    | .error _ => db
  | .delete r now, db => r.delete now db
  | .job run, db => (run.run ⟨db, []⟩).1.db

/-- Operations one after another. -/
def Db.runOps (db : Db) (ops : List StoreOp) : Db :=
  ops.foldl (fun db op => op.apply db) db

@[simp] theorem Db.runOps_nil (db : Db) : db.runOps [] = db := rfl

@[simp] theorem Db.runOps_cons (db : Db) (op : StoreOp) (ops : List StoreOp) :
    db.runOps (op :: ops) = (op.apply db).runOps ops := rfl

/-- **No operation writes what the guards read.** -/
theorem StoreOp.apply_sessions (op : StoreOp) (db : Db) : (op.apply db).sessions = db.sessions := by
  cases op with
  | save r backend now =>
    cases hs : r.save backend now db with
    | ok db' => simp only [apply, hs]; exact EmergencyAccess.save_sessions hs
    | error _ => simp only [apply, hs]
  | delete r now => exact EmergencyAccess.delete_sessions r now db
  | job run => exact run.run_sessions ⟨db, []⟩

theorem Db.runOps_sessions (db : Db) (ops : List StoreOp) : (db.runOps ops).sessions = db.sessions := by
  induction ops generalizing db with
  | nil => rfl
  | cons op ops ih => exact (ih _).trans (op.apply_sessions db)

/-! ## The guards read only sessions -/

/-- **Two outcomes of a guard that agree**: the same failure, or successes
related by `R`. -/
def Outcome.Agree {α : Type} (R : α → α → Prop) : Outcome α → Outcome α → Prop
  | .success a, .success b => R a b
  | .failure m, .failure m' => m = m'
  | .forward, .forward => True
  | _, _ => False

theorem Outcome.Agree.isSuccess_eq {α : Type} {R : α → α → Prop} {o o' : Outcome α}
    (h : Outcome.Agree R o o') : o'.isSuccess = o.isSuccess := by
  cases o <;> cases o' <;> first | rfl | exact h.elim

/-- A user found by uuid in a store with the same sessions has the same
uuid and security stamp. -/
theorem Db.findUser_session {db db' : Db} (h : db'.sessions = db.sessions) (u : String) :
    (db'.findUser u).map User.session = (db.findUser u).map User.session := by
  have hu : db'.users.map User.session = db.users.map User.session := congrArg (·.1) h
  have key : ∀ d : Db, (d.findUser u).map User.session =
      (d.users.map User.session).find? (·.1 == u) := fun d => by
    rw [findUser, List.find?_map]; rfl
  rw [key, key, hu]

variable {env : GuardEnv} {db : Db}

/-- **`Headers` reads only sessions**: on a store with the same sessions it
fails the same way, or succeeds with the same host, device, claims and the
same user's uuid and stamp. -/
theorem Headers.fromRequest_agree (h : db.sessions = env.db.sessions) (req : Request) :
    Outcome.Agree (fun a b => b.host = a.host ∧ b.device = a.device ∧ b.claims = a.claims ∧
        b.user.session = a.user.session)
      (Headers.fromRequest env req) (Headers.fromRequest { env with db } req) := by
  have hd : db.devices = env.db.devices := congrArg (·.2.1) h
  unfold Headers.fromRequest
  cases accessToken req with
  | error m => rfl
  | ok t =>
    dsimp only
    cases decodeLogin env.tokens t with
    | error _ => rfl
    | ok c =>
      dsimp only
      cases env.dbAvailable
      · rfl
      · simp only [Bool.not_true, Bool.false_eq_true, if_false, Db.findDevice, hd]
        cases env.db.devices.find? (·.uuid == c.device) with
        | none => rfl
        | some d =>
          have hu := Db.findUser_session h c.sub
          cases h1 : env.db.findUser c.sub <;> cases h2 : db.findUser c.sub <;>
            rw [h1, h2] at hu <;> simp only [Option.map_none', Option.map_some', reduceCtorEq,
              Option.some.injEq] at hu
          · rfl
          · rename_i u u'
            have hs : u'.securityStamp = u.securityStamp := congrArg Prod.snd hu
            dsimp only
            rw [hs]
            split
            · rfl
            · exact ⟨rfl, rfl, rfl, hu⟩

/-- `OrgHeaders` reads only sessions and memberships. -/
theorem OrgHeaders.fromRequest_agree (h : db.sessions = env.db.sessions) (req : Request) :
    Outcome.Agree (fun a b => b.claims = a.claims ∧ b.contextOrgUuid = a.contextOrgUuid)
      (OrgHeaders.fromRequest env req) (OrgHeaders.fromRequest { env with db } req) := by
  have hm : db.usersOrganizations = env.db.usersOrganizations := congrArg (·.2.2) h
  have hH := Headers.fromRequest_agree h req
  unfold OrgHeaders.fromRequest
  revert hH
  cases Headers.fromRequest env req <;> cases Headers.fromRequest { env with db } req <;>
    intro hH <;> try first | rfl | exact hH.elim | exact hH
  rename_i a b
  obtain ⟨-, -, hc, hs⟩ := hH
  have huuid : b.user.uuid = a.user.uuid := congrArg Prod.fst hs
  dsimp only
  cases getOrgId env.uuidParses req with
  | none => rfl
  | some o =>
    dsimp only
    cases env.dbAvailable
    · rfl
    · simp only [Bool.not_true, Bool.false_eq_true, if_false, Db.findUserOrg, hm, huuid]
      split
      · split
        · exact ⟨hc, rfl⟩
        · rfl
      · rfl

/-- **The admin and owner guards read only sessions and memberships**, as
`OrgHeaders` does. -/
theorem AdminHeaders.fromRequest_isSuccess_congr (h : db.sessions = env.db.sessions)
    (req : Request) :
    (AdminHeaders.fromRequest { env with db } req).isSuccess =
        (AdminHeaders.fromRequest env req).isSuccess ∧
      (OwnerHeaders.fromRequest { env with db } req).isSuccess =
        (OwnerHeaders.fromRequest env req).isSuccess := by
  have hO := OrgHeaders.fromRequest_agree h req
  rw [AdminHeaders.fromRequest_eq, AdminHeaders.fromRequest_eq, OwnerHeaders.fromRequest_eq,
    OwnerHeaders.fromRequest_eq]
  revert hO
  cases OrgHeaders.fromRequest env req <;> cases OrgHeaders.fromRequest { env with db } req <;>
    intro hO <;> try first | exact ⟨rfl, rfl⟩ | exact hO.elim
  obtain ⟨hc, ho⟩ := hO
  dsimp only
  rw [hc, ho]
  exact ⟨rfl, rfl⟩

/-- **Saves, deletes and job runs never change which requests the guards
admit**: after any sequence of them, each of `Headers`, `OrgHeaders`,
`AdminHeaders` and `OwnerHeaders` lets exactly the requests through that it
let through before. -/
theorem storeOps_keep_guard_decisions (env : GuardEnv) (ops : List StoreOp) (req : Request) :
    (Headers.fromRequest { env with db := env.db.runOps ops } req).isSuccess =
        (Headers.fromRequest env req).isSuccess ∧
      (OrgHeaders.fromRequest { env with db := env.db.runOps ops } req).isSuccess =
        (OrgHeaders.fromRequest env req).isSuccess ∧
      (AdminHeaders.fromRequest { env with db := env.db.runOps ops } req).isSuccess =
        (AdminHeaders.fromRequest env req).isSuccess ∧
      (OwnerHeaders.fromRequest { env with db := env.db.runOps ops } req).isSuccess =
        (OwnerHeaders.fromRequest env req).isSuccess :=
  have h := env.db.runOps_sessions ops
  ⟨(Headers.fromRequest_agree h req).isSuccess_eq, (OrgHeaders.fromRequest_agree h req).isSuccess_eq,
    AdminHeaders.fromRequest_isSuccess_congr h req⟩

end BitwardenRs
