import BitwardenRs.Jobs

/-!
# The jobs over any number of runs

The two jobs are the automatic tail of the emergency-access state machine.
Here they are run one after another any number of times, in any order, at
any times, each run from the state the previous one left – whether it
panicked or not, so that whatever the scheduler does after a panic, the
states it reaches are among these (`jobRuns`).

Over such runs the jobs keep to their part of the machine. No row is created
or deleted, and each row keeps every column but `status` and `updated_at`;
its status stays, or goes from `RecoveryInitiated` to `RecoveryApproved`
(`jobRuns_rows_evolve`). So the spec's invariant of a record – that
`recovery_initiated_at` is set exactly in the two recovery states – holds
after the runs when it held before (`jobRuns_keep_recoveryStamped`). Of the
users the jobs only ever bump `updated_at`; the uuids and security stamps the
guards read, the devices and the memberships stay (`jobRuns_sessions`).

The jobs mail no one but the two parties of a recovery: every send over the
runs is about a row that was in `RecoveryInitiated` in the store the runs
started from, and goes to the address that store has for the row's grantor
or grantee (`recoveryJobs_mail_only_parties`). A send that fails is still
one the job attempted, so this holds whether the mailer answers or not.
-/

namespace BitwardenRs

/-! ## What a job may do to a row -/

/-- **What the jobs may do to a row**: change its `status` and its
`updated_at` only, and the status only from `RecoveryInitiated` to
`RecoveryApproved`. -/
def RowEvolves (e e' : EmergencyAccess) : Prop :=
  e' = { e with status := e'.status, updatedAt := e'.updatedAt } ∧
    (e'.status = e.status ∨
      (e.status = EmergencyAccessStatus.RecoveryInitiated.toI32 ∧
        e'.status = EmergencyAccessStatus.RecoveryApproved.toI32))

namespace RowEvolves

theorem refl (e : EmergencyAccess) : RowEvolves e e := ⟨rfl, .inl rfl⟩

theorem trans {e e' e'' : EmergencyAccess} (h : RowEvolves e e') (h' : RowEvolves e' e'') :
    RowEvolves e e'' := by
  refine ⟨by rw [h'.1, h.1], ?_⟩
  rcases h.2 with hs | ⟨hi, ha⟩ <;> rcases h'.2 with hs' | ⟨hi', ha'⟩
  · exact .inl (hs'.trans hs)
  · exact .inr ⟨hs ▸ hi', ha'⟩
  · exact .inr ⟨hi, hs'.trans ha⟩
  · exact absurd (ha.symm.trans hi') (by decide)

theorem rel_refl (o : Option EmergencyAccess) : Option.Rel RowEvolves o o := by
  cases o
  · exact .none
  · exact .some (refl _)

theorem rel_trans {o o' o'' : Option EmergencyAccess} (h : Option.Rel RowEvolves o o')
    (h' : Option.Rel RowEvolves o' o'') : Option.Rel RowEvolves o o'' := by
  cases h with
  | none => exact h'
  | some hr => cases h' with
    | some hr' => exact .some (hr.trans hr')

/-- A row the jobs leave in `RecoveryInitiated` was in it before. -/
theorem recoveryInitiated {e e' : EmergencyAccess} (h : RowEvolves e e')
    (h' : e'.status = EmergencyAccessStatus.RecoveryInitiated.toI32) :
    e.status = EmergencyAccessStatus.RecoveryInitiated.toI32 := by
  rcases h.2 with hs | ⟨hi, ha⟩
  · exact hs ▸ h'
  · exact absurd (ha.symm.trans h') (by decide)

/-- The columns the jobs never write. -/
theorem fixed {e e' : EmergencyAccess} (h : RowEvolves e e') :
    e'.uuid = e.uuid ∧ e'.grantorUuid = e.grantorUuid ∧ e'.granteeUuid = e.granteeUuid ∧
      e'.waitTimeDays = e.waitTimeDays ∧ e'.recoveryInitiatedAt = e.recoveryInitiatedAt := by
  rw [h.1]
  exact ⟨rfl, rfl, rfl, rfl, rfl⟩

end RowEvolves

/-- **A run keeps rows to what `RowEvolves` allows**, given a loop body whose
result on a record in `RecoveryInitiated`, when its condition holds, does. -/
theorem recordRun_rowEvolves {due : EmergencyAccess → NaiveDateTime → Except String Bool}
    {update : EmergencyAccess → EmergencyAccess}
    {notify : JobEnv → Db → EmergencyAccess → List Notification → List Notification × Option String}
    {notified : Db → EmergencyAccess → List Notification → Prop} {env : JobEnv} {now : NaiveDateTime}
    (hs : RecordStepSpec (recordStep due update notify env now) (stepResult due update now)
      (stepSends due update notified env now))
    (hev : ∀ e, e.status = EmergencyAccessStatus.RecoveryInitiated.toI32 →
      RowEvolves e { update e with updatedAt := now })
    (st : JobState) (u : String) :
    Option.Rel RowEvolves (st.db.find u) ((forEachUntilPanic (recordStep due update notify env now)
      st (EmergencyAccess.findAllRecoveries st.db)).1.db.find u) := by
  rcases forEachUntilPanic_find hs EmergencyAccess.findAllRecoveries_nodup
    (fun _ he => (EmergencyAccess.mem_findAllRecoveries.1 he).1) u with h | ⟨e, he, rfl, h⟩
  · rw [h]; exact RowEvolves.rel_refl _
  · obtain ⟨hf, hRI⟩ := EmergencyAccess.mem_findAllRecoveries.1 he
    rw [hf, h]
    refine .some ?_
    unfold stepResult
    split
    · exact hev e hRI
    · exact RowEvolves.refl e

/-! ## Runs of the two jobs -/

/-- **A run of one of the two jobs**, with what it reads besides the
store. -/
inductive JobRun
  | timedOut (env : JobEnv) (now : NaiveDateTime)
  | reminder (env : JobEnv) (now : NaiveDateTime)

/-- The run: `emergency_request_timed_out_job` or
`emergency_notification_reminder_job`. -/
def JobRun.run : JobRun → JobState → JobState × Option String
  | .timedOut env now, st => emergencyRequestTimedOutJob env now st
  | .reminder env now, st => emergencyNotificationReminderJob env now st

/-- Runs one after another, each from the state the previous one left,
whether it panicked or not. -/
def jobRuns (st : JobState) (runs : List JobRun) : JobState :=
  runs.foldl (fun st r => (r.run st).1) st

@[simp] theorem jobRuns_nil (st : JobState) : jobRuns st [] = st := rfl

@[simp] theorem jobRuns_cons (st : JobState) (r : JobRun) (runs : List JobRun) :
    jobRuns st (r :: runs) = jobRuns (r.run st).1 runs := rfl

theorem JobRun.run_rowEvolves (r : JobRun) (st : JobState) (u : String) :
    Option.Rel RowEvolves (st.db.find u) ((r.run st).1.db.find u) := by
  cases r with
  | timedOut env now =>
    exact recordRun_rowEvolves (timedOutStep_spec env now) (fun e hRI => ⟨rfl, .inr ⟨hRI, rfl⟩⟩) st u
  | reminder env now =>
    exact recordRun_rowEvolves (reminderStep_spec env now) (fun e _ => ⟨rfl, .inl rfl⟩) st u

/-- **The jobs only restamp rows and approve recoveries**: over any runs of
the two jobs, in any order, at any times, panicking or not, no row is created
or deleted, and each row keeps every column but `status` and `updated_at`;
its status stays, or goes from `RecoveryInitiated` to `RecoveryApproved`. -/
theorem jobRuns_rows_evolve (st : JobState) (runs : List JobRun) (u : String) :
    Option.Rel RowEvolves (st.db.find u) ((jobRuns st runs).db.find u) := by
  induction runs generalizing st with
  | nil => exact RowEvolves.rel_refl _
  | cons r runs ih => exact RowEvolves.rel_trans (r.run_rowEvolves st u) (ih _)

/-! ## The spec's invariant of a record -/

/-- **The spec's invariant of a record**: `recovery_initiated_at` is set
exactly when the status is `RecoveryInitiated` or `RecoveryApproved`. -/
def RecoveryStamped (e : EmergencyAccess) : Prop :=
  e.recoveryInitiatedAt.isSome = true ↔
    e.status = EmergencyAccessStatus.RecoveryInitiated.toI32 ∨
      e.status = EmergencyAccessStatus.RecoveryApproved.toI32

instance (e : EmergencyAccess) : Decidable (RecoveryStamped e) :=
  inferInstanceAs (Decidable (_ ↔ _))

theorem RowEvolves.recoveryStamped {e e' : EmergencyAccess} (h : RowEvolves e e')
    (he : RecoveryStamped e) : RecoveryStamped e' := by
  unfold RecoveryStamped at he ⊢
  rw [h.fixed.2.2.2.2]
  rcases h.2 with hs | ⟨hi, ha⟩
  · rw [hs]; exact he
  · rw [ha]; exact iff_of_true (he.2 (.inl hi)) (.inr rfl)

/-- Each row of a table is what `find` returns for its key. -/
theorem rows_find {db : Db} {e : EmergencyAccess} (he : e ∈ db.emergencyAccesses.rows) :
    db.find e.uuid = some e :=
  EmergencyAccessTable.find_eq_some_iff.2 ⟨he, rfl⟩

/-- A row after a run comes from a row before it. -/
theorem JobRun.run_row_origin (r : JobRun) (st : JobState) {e' : EmergencyAccess}
    (he' : e' ∈ (r.run st).1.db.emergencyAccesses.rows) :
    ∃ e ∈ st.db.emergencyAccesses.rows, RowEvolves e e' := by
  have h := r.run_rowEvolves st e'.uuid
  rw [rows_find he'] at h
  generalize hf : st.db.find e'.uuid = o at h
  cases h with
  | some hr => exact ⟨_, (EmergencyAccessTable.find_eq_some_iff.1 hf).1, hr⟩

/-- A row after the runs comes from a row before them. -/
theorem jobRuns_row_origin {st : JobState} {runs : List JobRun} {e' : EmergencyAccess}
    (he' : e' ∈ (jobRuns st runs).db.emergencyAccesses.rows) :
    ∃ e ∈ st.db.emergencyAccesses.rows, RowEvolves e e' := by
  induction runs generalizing st with
  | nil => exact ⟨e', he', RowEvolves.refl e'⟩
  | cons r runs ih =>
    obtain ⟨e₁, he₁, h₁⟩ := ih he'
    obtain ⟨e₀, he₀, h₀⟩ := r.run_row_origin st he₁
    exact ⟨e₀, he₀, h₀.trans h₁⟩

/-- **The jobs keep the spec's invariant of a record**: after any runs, every
row has `recovery_initiated_at` set exactly in the two recovery states when
every row had before. -/
theorem jobRuns_keep_recoveryStamped (st : JobState) (runs : List JobRun)
    (h : ∀ e ∈ st.db.emergencyAccesses.rows, RecoveryStamped e) :
    ∀ e ∈ (jobRuns st runs).db.emergencyAccesses.rows, RecoveryStamped e := fun _ he' =>
  let ⟨e, he, hr⟩ := jobRuns_row_origin he'
  hr.recoveryStamped (h e he)

/-- The two sample recoveries keep the invariant through a timed-out run on
`jan10`, which approves both, and a reminder run after it. -/
theorem jobRuns_keep_recoveryStamped_sample :
    (∀ e ∈ twoRecoveries.db.emergencyAccesses.rows, RecoveryStamped e) ∧
      ∀ e ∈ (jobRuns twoRecoveries [.timedOut mailUp jan10, .reminder mailUp jan10]).db.emergencyAccesses.rows,
        RecoveryStamped e :=
  have h : ∀ e ∈ twoRecoveries.db.emergencyAccesses.rows, RecoveryStamped e := by decide
  ⟨h, jobRuns_keep_recoveryStamped twoRecoveries _ h⟩

/-! ## What the jobs do to the users -/

/-- What the guards read of a user: its uuid and its security stamp. -/
def User.session (u : User) : String × String := (u.uuid, u.securityStamp)

/-- **What the guards read of the store**: the users' uuids and security
stamps, in order, the devices, and the memberships. -/
def Db.sessions (db : Db) : List (String × String) × List Device × List UserOrganization :=
  (db.users.map User.session, db.devices, db.usersOrganizations)

theorem Db.sessions_updateUuidRevision (db : Db) (uuid : String) (now : NaiveDateTime) :
    (db.updateUuidRevision uuid now).sessions = db.sessions := by
  simp only [sessions, updateUuidRevision, List.map_map]
  congr 1
  exact List.map_congr_left fun x _ => by by_cases h : x.uuid = uuid <;> simp [h, User.session]

/-- `save` bumps a revision and writes a row, nothing the guards read. -/
theorem EmergencyAccess.save_sessions {r : EmergencyAccess} {backend : DbBackend}
    {now : NaiveDateTime} {db db' : Db} (h : r.save backend now db = .ok db') :
    db'.sessions = db.sessions := by
  rw [save_eq] at h
  split at h
  · cases h; exact Db.sessions_updateUuidRevision db _ now
  · split at h
    · cases h; exact Db.sessions_updateUuidRevision db _ now
    · cases h

theorem EmergencyAccess.delete_sessions (r : EmergencyAccess) (now : NaiveDateTime) (db : Db) :
    (r.delete now db).sessions = db.sessions :=
  Db.sessions_updateUuidRevision db _ now

/-- The state a loop body leaves has the store of a `save` or the store it
was given. -/
theorem recordStep_db {due : EmergencyAccess → NaiveDateTime → Except String Bool}
    {update : EmergencyAccess → EmergencyAccess}
    {notify : JobEnv → Db → EmergencyAccess → List Notification → List Notification × Option String}
    {env : JobEnv} {now : NaiveDateTime} (st : JobState) (emer : EmergencyAccess) :
    (recordStep due update notify env now st emer).1.db = st.db ∨
      (update emer).save env.backend now st.db = .ok (recordStep due update notify env now st emer).1.db := by
  rcases @recordStep_cases due update notify env now st emer with
    ⟨p, -, hr⟩ | ⟨-, hr⟩ | ⟨-, e, -, hr⟩ | ⟨-, db, hs, hr⟩
  iterate 3 exact .inl (by rw [hr])
  exact .inr (by rw [hr, afterSave_db]; exact hs)

theorem JobRun.run_sessions (r : JobRun) (st : JobState) :
    (r.run st).1.db.sessions = st.db.sessions := by
  have step : ∀ (due : EmergencyAccess → NaiveDateTime → Except String Bool)
      (update : EmergencyAccess → EmergencyAccess)
      (notify : JobEnv → Db → EmergencyAccess → List Notification → List Notification × Option String)
      env now l, (forEachUntilPanic (recordStep due update notify env now) st l).1.db.sessions =
        st.db.sessions := fun due update notify env now l =>
    forEachUntilPanic_inv (fun st' => st'.db.sessions = st.db.sessions) l
      (fun st' emer _ h => (recordStep_db st' emer).elim (fun h' => (congrArg Db.sessions h').trans h)
        fun hs => (EmergencyAccess.save_sessions hs).trans h) st rfl
  cases r with
  | timedOut env now => exact step _ _ _ env now _
  | reminder env now => exact step _ _ _ env now _

/-- **The jobs never touch what the guards read**: after any runs, every
user keeps its uuid and security stamp, in order, and the devices and the
memberships are as they were. -/
theorem jobRuns_sessions (st : JobState) (runs : List JobRun) :
    (jobRuns st runs).db.sessions = st.db.sessions := by
  induction runs generalizing st with
  | nil => rfl
  | cons r runs ih => exact (ih _).trans (r.run_sessions st)

/-! ## Whom the jobs mail -/

/-- The address a mail goes to: the first argument of `mail::send_*`. -/
def Mail.address : Mail → String
  | .emergencyAccessRecoveryTimedOut address _ _ => address
  | .emergencyAccessRecoveryApproved address _ => address
  | .emergencyAccessRecoveryReminder address _ _ _ => address

/-- **A send to a party of a recovery**: its record is a row of the store in
`RecoveryInitiated`, and it goes to the address the store has for the row's
grantor or for its grantee. -/
def ToParty (db : Db) (n : Notification) : Prop :=
  ∃ e ∈ db.emergencyAccesses.rows, e.uuid = n.record ∧
    e.status = EmergencyAccessStatus.RecoveryInitiated.toI32 ∧
    ∃ u user, (u = e.grantorUuid ∨ e.granteeUuid = some u) ∧ db.findUser u = some user ∧
      n.mail.address = user.email

/-- **What a notification may send**: mails about the record it is given,
each to the address the store it is given has for the record's grantor or
grantee. -/
def NotifiesParties
    (notify : JobEnv → Db → EmergencyAccess → List Notification → List Notification × Option String) :
    Prop :=
  ∀ env db e sent, ∃ L, (notify env db e sent).1 = sent ++ L ∧ ∀ n ∈ L, n.record = e.uuid ∧
    ∃ u user, (u = e.grantorUuid ∨ e.granteeUuid = some u) ∧ db.findUser u = some user ∧
      n.mail.address = user.email

/-- The sends of one record are a prefix of its mails: those up to the first
that fails. -/
theorem sendMails_prefix (env : JobEnv) (record : String) (ms : List Mail) (sent : List Notification) :
    ∃ L, (sendMails env record ms sent).1 = sent ++ L ∧ L <+: ms.map (⟨record, ·⟩) := by
  induction ms generalizing sent with
  | nil => exact ⟨[], by simp [sendMails], List.nil_prefix⟩
  | cons m ms ih =>
    by_cases hm : env.mailer sent.length m = true
    · obtain ⟨L, hL, hp⟩ := ih (sent ++ [⟨record, m⟩])
      refine ⟨⟨record, m⟩ :: L, by simp [sendMails, sendMail, hm, hL], ?_⟩
      simpa only [List.map_cons, List.prefix_cons_inj] using hp
    · exact ⟨[⟨record, m⟩], by simp [sendMails, sendMail, hm], ⟨_, rfl⟩⟩

/-- `notifyUsers` sends to the grantor and the grantee it looked up, when each
mail it makes from them is addressed to one of them. -/
theorem notifyUsers_notifiesParties (mails : EmergencyAccess → User → User → List Mail)
    (hm : ∀ e g ge, ∀ m ∈ mails e g ge, m.address = g.email ∨ m.address = ge.email) :
    NotifiesParties fun env db e sent => notifyUsers env db e (mails e) sent := by
  intro env db e sent
  dsimp only
  unfold notifyUsers
  split
  · exact ⟨[], by simp, by simp⟩
  · rename_i g hg
    split
    · exact ⟨[], by simp, by simp⟩
    · rename_i gu hgu
      split
      · exact ⟨[], by simp, by simp⟩
      · rename_i ge hge
        obtain ⟨L, hL, hp⟩ := sendMails_prefix env e.uuid (mails e g ge) sent
        refine ⟨L, hL, fun n hn => ?_⟩
        obtain ⟨m, hm', rfl⟩ := List.mem_map.1 (hp.subset hn)
        rcases hm e g ge m hm' with h | h
        · exact ⟨rfl, _, g, .inl rfl, hg, h⟩
        · exact ⟨rfl, gu, ge, .inr hgu, hge, h⟩

theorem notifyRecoveryTimedOut_notifiesParties : NotifiesParties notifyRecoveryTimedOut :=
  notifyUsers_notifiesParties recoveryTimedOutMails fun _ _ _ m hm => by
    simp only [recoveryTimedOutMails, List.mem_cons, List.mem_singleton, List.not_mem_nil,
      or_false] at hm
    rcases hm with rfl | rfl
    exacts [.inl rfl, .inr rfl]

theorem notifyRecoveryReminder_notifiesParties : NotifiesParties notifyRecoveryReminder :=
  notifyUsers_notifiesParties recoveryReminderMails fun _ _ _ m hm => by
    rw [recoveryReminderMails, List.mem_singleton] at hm
    exact .inl (by rw [hm]; rfl)

/-- **The invariant of the mails**, from a state `st₀` on: the users keep
their addresses and names, and every send since `st₀` went to a party of a
recovery of `st₀`'s store. -/
def MailsToParties (st₀ st : JobState) : Prop :=
  st.db.contacts = st₀.db.contacts ∧ ∃ L, st.sent = st₀.sent ++ L ∧ ∀ n ∈ L, ToParty st₀.db n

theorem MailsToParties.refl (st : JobState) : MailsToParties st st :=
  ⟨rfl, [], by simp, by simp⟩

/-- A send to a party of a row stays one to a party of the row it evolved
from, when the addresses are the same. -/
theorem ToParty.of_evolve {db₀ db : Db} {n : Notification}
    (hrows : ∀ e ∈ db.emergencyAccesses.rows, ∃ e₀ ∈ db₀.emergencyAccesses.rows, RowEvolves e₀ e)
    (hc : db.contacts = db₀.contacts) (h : ToParty db n) : ToParty db₀ n := by
  obtain ⟨e, he, hrec, hRI, u, user, hu, hf, hm⟩ := h
  obtain ⟨e₀, he₀, hev⟩ := hrows e he
  obtain ⟨huuid, hgr, hge, -⟩ := hev.fixed
  obtain ⟨user₀, hf₀, hc₀⟩ := Db.findUser_of_contacts hc hf
  exact ⟨e₀, he₀, huuid ▸ hrec, hev.recoveryInitiated hRI, u, user₀,
    by rwa [← hgr, ← hge], hf₀, hm.trans (congrArg Prod.fst hc₀).symm⟩

theorem MailsToParties.trans {st₀ st₁ st₂ : JobState} (h₀₁ : MailsToParties st₀ st₁)
    (hrows : ∀ e ∈ st₁.db.emergencyAccesses.rows, ∃ e₀ ∈ st₀.db.emergencyAccesses.rows, RowEvolves e₀ e)
    (h₁₂ : MailsToParties st₁ st₂) : MailsToParties st₀ st₂ := by
  obtain ⟨ha₀₁, L₀₁, hL₀₁, hp₀₁⟩ := h₀₁
  obtain ⟨ha₁₂, L₁₂, hL₁₂, hp₁₂⟩ := h₁₂
  refine ⟨ha₁₂.trans ha₀₁, L₀₁ ++ L₁₂, by rw [hL₁₂, hL₀₁, List.append_assoc],
    fun n hn => ?_⟩
  rcases List.mem_append.1 hn with hn | hn
  · exact hp₀₁ n hn
  · exact (hp₁₂ n hn).of_evolve hrows ha₀₁

/-- **A loop body sends only to the parties of the record it processes**, a
recovery of the store the run read. -/
theorem recordStep_mailsToParties {due : EmergencyAccess → NaiveDateTime → Except String Bool}
    {update : EmergencyAccess → EmergencyAccess}
    {notify : JobEnv → Db → EmergencyAccess → List Notification → List Notification × Option String}
    {env : JobEnv} {now : NaiveDateTime} (hn : NotifiesParties notify)
    (hu : ∀ e, (update e).uuid = e.uuid ∧ (update e).grantorUuid = e.grantorUuid ∧
      (update e).granteeUuid = e.granteeUuid)
    {st₀ st : JobState} {emer : EmergencyAccess}
    (hemer : emer ∈ EmergencyAccess.findAllRecoveries st₀.db) (h : MailsToParties st₀ st) :
    MailsToParties st₀ (recordStep due update notify env now st emer).1 := by
  rcases @recordStep_cases due update notify env now st emer with
    ⟨p, -, hr⟩ | ⟨-, hr⟩ | ⟨-, e, -, hr⟩ | ⟨-, db, hs, hr⟩
  iterate 3 rw [hr]; exact h
  obtain ⟨ha, L, hL, hp⟩ := h
  have hdb : db.contacts = st₀.db.contacts := (EmergencyAccess.save_contacts hs).trans ha
  rw [hr]
  unfold afterSave
  split
  · obtain ⟨L', hL', hp'⟩ := hn env db (update emer) st.sent
    refine ⟨hdb, L ++ L', by rw [hL', hL, List.append_assoc], fun n hn' => ?_⟩
    rcases List.mem_append.1 hn' with hn' | hn'
    · exact hp n hn'
    · obtain ⟨hrec, u, user, hpar, hf, hm⟩ := hp' n hn'
      obtain ⟨hfind, hRI⟩ := EmergencyAccess.mem_findAllRecoveries.1 hemer
      obtain ⟨huuid, hgr, hge⟩ := hu emer
      obtain ⟨user₀, hf₀, hc₀⟩ := Db.findUser_of_contacts hdb hf
      exact ⟨emer, (EmergencyAccessTable.find_eq_some_iff.1 hfind).1, (hrec.trans huuid).symm, hRI, u,
        user₀, by rwa [← hgr, ← hge], hf₀, hm.trans (congrArg Prod.fst hc₀).symm⟩
  · exact ⟨hdb, L, hL, hp⟩

theorem JobRun.run_mailsToParties (r : JobRun) (st : JobState) : MailsToParties st (r.run st).1 := by
  have loop : ∀ (due : EmergencyAccess → NaiveDateTime → Except String Bool)
      (update : EmergencyAccess → EmergencyAccess) notify env now,
      NotifiesParties notify → (∀ e, (update e).uuid = e.uuid ∧
        (update e).grantorUuid = e.grantorUuid ∧ (update e).granteeUuid = e.granteeUuid) →
      MailsToParties st (forEachUntilPanic (recordStep due update notify env now) st
        (EmergencyAccess.findAllRecoveries st.db)).1 := fun _ _ _ _ _ hn hu =>
    forEachUntilPanic_inv (MailsToParties st) _
      (fun _ _ hemer h => recordStep_mailsToParties hn hu hemer h) st (MailsToParties.refl st)
  cases r with
  | timedOut env now =>
    exact loop _ _ _ env now notifyRecoveryTimedOut_notifiesParties fun _ => ⟨rfl, rfl, rfl⟩
  | reminder env now =>
    exact loop _ _ _ env now notifyRecoveryReminder_notifiesParties fun _ => ⟨rfl, rfl, rfl⟩

/-- **The jobs mail only the parties of a recovery**: over any runs of the two
jobs, in any order, at any times, panicking or not, every mail they attempt is
about a record that was a recovery in the store they started from, and goes
to the address the store has for that record's grantor or grantee. -/
theorem recoveryJobs_mail_only_parties (st : JobState) (runs : List JobRun) :
    ∃ L, (jobRuns st runs).sent = st.sent ++ L ∧ ∀ n ∈ L, ToParty st.db n := by
  suffices h : MailsToParties st (jobRuns st runs) from h.2
  induction runs generalizing st with
  | nil => exact MailsToParties.refl st
  | cons r runs ih =>
    exact (r.run_mailsToParties st).trans (fun _ he => r.run_row_origin st he) (ih _)

end BitwardenRs
