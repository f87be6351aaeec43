import BitwardenRs.Db

/-!
# The recovery jobs

Two jobs run on a timer, each over the records `find_all_recoveries`
returns. `emergency_request_timed_out_job` approves a record once its wait
time has passed since recovery was initiated, saves it, and mails the grantor
and the grantee. `emergency_notification_reminder_job` saves a record whose
deadline is a day away or less, unless it was reminded less than a day ago,
and mails the grantor a reminder.

Every failure inside the loop is an `.expect` – a missing user, a record with
no grantee, a failed save, a failed mail – and so is an overflow of the date
arithmetic of the conditions. A panic ends the run where it happens, with what
was already saved staying saved. A step of the loop is therefore a function
to the state it leaves and the panic that ended it, if one did, and the loop
(`forEachUntilPanic`) stops at the first panic.

The mails are recorded as attempts, tagged with the record being processed;
whether an attempt succeeds is the mailer's answer, which may depend on
everything attempted before it (`JobEnv.mailer`). What a notification sends
is stated against the store a run started from (`Notified`): the mails read
only the grantor's and the grantee's addresses and names, and no save of the
run changes those (`RecordStepSpec.contacts`).

A run reads the clock once: every `Utc::now()` of one run is the same
instant.
-/

namespace BitwardenRs

/-- The mails the jobs send, with the arguments `mail::send_*` gets. -/
inductive Mail
  | emergencyAccessRecoveryTimedOut (address granteeName atype : String)
  | emergencyAccessRecoveryApproved (address grantorName : String)
  | emergencyAccessRecoveryReminder (address granteeName atype waitTimeDays : String)
  deriving DecidableEq

/-- A send the job attempted, with the record it was processing. -/
structure Notification where
  record : String
  mail : Mail
  deriving DecidableEq

/-- **What a job run reads besides the database.** -/
structure JobEnv where
  /-- The database engine. -/
  backend : DbBackend
  /-- `CONFIG.mail_enabled()`. -/
  mailEnabled : Bool
  /-- Whether the send attempted after `n` others succeeds. -/
  mailer : Nat → Mail → Bool

/-- What a job has done so far: the database, and the sends it attempted. -/
structure JobState where
  db : Db
  sent : List Notification

/-! ## The two conditions -/

/-- The condition of `emergency_request_timed_out_job`:
`recovery_initiated_at.is_some() && now >= recovery_initiated_at.unwrap() +
Duration::days(wait_time_days as i64)`, panics included. -/
def recoveryTimedOut (emer : EmergencyAccess) (now : NaiveDateTime) : Except String Bool :=
  match emer.recoveryInitiatedAt with
  | none => .ok false
  | some initiated => do
    let deadline ← initiated.add (← Duration.days emer.waitTimeDays.val)
    pure (decide (deadline ≤ now))

/-- The condition of `emergency_notification_reminder_job`: the deadline is
less than a day away, and there was no reminder in the last day. The second
addition is made only when the first part holds and there was a reminder. -/
def reminderDue (emer : EmergencyAccess) (now : NaiveDateTime) : Except String Bool := do
  let initiated ←
    match emer.recoveryInitiatedAt with
    | none => pure false
    | some initiated => do
      let reminderFrom ← initiated.add (← Duration.days (emer.waitTimeDays.val - 1))
      pure (decide (reminderFrom ≤ now))
  if initiated then
    match emer.lastNotificationAt with
    | none => pure true
    | some last => do
      let next ← last.add (← Duration.days 1)
      pure (decide (next ≤ now))
  else pure false

/-- A wait time is an `i32`, so `Duration::days` never panics on it: the
timed-out condition is the comparison with `initiated + wait_time_days`, and
panics exactly when that sum overflows. -/
theorem recoveryTimedOut_of_some {emer : EmergencyAccess} {now initiated : NaiveDateTime}
    (h : emer.recoveryInitiatedAt = some initiated) :
    recoveryTimedOut emer now =
      (initiated.add ⟨emer.waitTimeDays.val * nanosPerDay⟩).map fun d => decide (d ≤ now) := by
  have hw := emer.waitTimeDays.range
  simp only [recoveryTimedOut, h, Duration.days_of_i32 (show -2147483649 ≤ emer.waitTimeDays.val
    by omega) (show emer.waitTimeDays.val < 2147483648 by omega)]
  cases hd : initiated.add ⟨emer.waitTimeDays.val * nanosPerDay⟩ <;>
    simp [hd, bind, Except.bind, pure, Except.pure, Except.map]

/-- The first half of the reminder condition, on a record whose recovery was
initiated: the comparison with `initiated + (wait_time_days - 1)` days. -/
theorem reminderDue_of_some {emer : EmergencyAccess} {now initiated : NaiveDateTime}
    (h : emer.recoveryInitiatedAt = some initiated) :
    reminderDue emer now =
      match initiated.add ⟨(emer.waitTimeDays.val - 1) * nanosPerDay⟩ with
      | .error p => .error p
      | .ok reminderFrom =>
        if reminderFrom ≤ now then
          match emer.lastNotificationAt with
          | none => .ok true
          | some last => (last.add ⟨1 * nanosPerDay⟩).map fun d => decide (d ≤ now)
        else .ok false := by
  have hw := emer.waitTimeDays.range
  simp only [reminderDue, h, Duration.days_of_i32 (show -2147483649 ≤ emer.waitTimeDays.val - 1 by omega)
    (show emer.waitTimeDays.val - 1 < 2147483648 by omega),
    Duration.days_of_i32 (show (-2147483649 : Int) ≤ 1 by omega) (show (1 : Int) < 2147483648 by omega)]
  cases hd : initiated.add ⟨(emer.waitTimeDays.val - 1) * nanosPerDay⟩ with
  | error p => simp [hd, bind, Except.bind]
  | ok reminderFrom =>
    by_cases hle : reminderFrom ≤ now
    · cases hl : emer.lastNotificationAt with
      | none => simp [hd, hl, bind, Except.bind, pure, Except.pure, hle]
      | some last =>
        cases hn : last.add ⟨1 * nanosPerDay⟩ <;>
          simp [hd, hl, hn, bind, Except.bind, pure, Except.pure, hle, Except.map]
    · simp [hd, bind, Except.bind, pure, Except.pure, hle]

theorem isOk_map {α β : Type} (x : Except String α) (f : α → β) : (x.map f).isOk = x.isOk := by
  cases x <;> rfl

/-- **The timed-out condition panics exactly when `initiated + wait_time_days`
leaves chrono's range.** -/
theorem recoveryTimedOut_isOk_iff {emer : EmergencyAccess} {now T : NaiveDateTime}
    (hT : emer.recoveryInitiatedAt = some T) :
    (recoveryTimedOut emer now).isOk = true ↔
      minNanos ≤ T.nanos + emer.waitTimeDays.val * nanosPerDay ∧
        T.nanos + emer.waitTimeDays.val * nanosPerDay ≤ maxNanos := by
  rw [recoveryTimedOut_of_some hT, isOk_map, NaiveDateTime.add_isOk_iff]

/-- **The reminder condition panics exactly when `initiated + (wait_time_days
- 1)` leaves the range, or when – that time passed – `last_notification_at`
plus a day does.** -/
theorem reminderDue_isOk_iff {emer : EmergencyAccess} {now T : NaiveDateTime}
    (hT : emer.recoveryInitiatedAt = some T) :
    (reminderDue emer now).isOk = true ↔
      (minNanos ≤ T.nanos + (emer.waitTimeDays.val - 1) * nanosPerDay ∧
        T.nanos + (emer.waitTimeDays.val - 1) * nanosPerDay ≤ maxNanos) ∧
      (T.nanos + (emer.waitTimeDays.val - 1) * nanosPerDay ≤ now.nanos →
        ∀ last, emer.lastNotificationAt = some last → last.nanos + nanosPerDay ≤ maxNanos) := by
  rw [reminderDue_of_some hT]
  cases hd : T.add ⟨(emer.waitTimeDays.val - 1) * nanosPerDay⟩ with
  | error p =>
    refine iff_of_false (by simp [Except.isOk, Except.toBool]) fun h => ?_
    have := (NaiveDateTime.add_isOk_iff T _).2 h.1
    rw [hd] at this; cases this
  | ok reminderFrom =>
    have hR := NaiveDateTime.add_eq_ok hd
    have hrange := hR ▸ reminderFrom.range
    simp only
    by_cases hle : reminderFrom ≤ now
    · rw [if_pos hle]
      have hle' : T.nanos + (emer.waitTimeDays.val - 1) * nanosPerDay ≤ now.nanos := hR ▸ hle
      cases hl : emer.lastNotificationAt with
      | none => simp [hrange, Except.isOk, Except.toBool]
      | some last =>
        have hmin := last.range.1
        rw [isOk_map, NaiveDateTime.add_isOk_iff]
        simp only [hrange, hle', true_and, true_implies, Option.some.injEq, forall_eq',
          Int.one_mul]
        have : (0 : Int) < nanosPerDay := by decide
        omega
    · rw [if_neg hle]
      have hlt : now.nanos < T.nanos + (emer.waitTimeDays.val - 1) * nanosPerDay :=
        hR ▸ lt_of_not_le hle
      exact iff_of_true rfl ⟨hrange, fun h => absurd h (not_le.2 hlt)⟩

/-! ## One step of each loop

The two loop bodies differ in their condition, in what they change before
saving – the timed-out job sets `RecoveryApproved`, the reminder job nothing –
and in the mails they send. `recordStep` is the body with those three as
parameters. -/

/-- `mail::send_*(..).expect("Error on sending email")`: the attempt is
recorded, and a failed one panics. -/
def sendMail (env : JobEnv) (record : String) (m : Mail) (sent : List Notification) :
    List Notification × Option String :=
  (sent ++ [⟨record, m⟩], if env.mailer sent.length m then none else some "Error on sending email")

/-- The sends of one record, in order, up to the first that fails. -/
def sendMails (env : JobEnv) (record : String) :
    List Mail → List Notification → List Notification × Option String
  | [], sent => (sent, none)
  | m :: ms, sent =>
    match sendMail env record m sent with
    | (sent, none) => sendMails env record ms sent
    | (sent, some p) => (sent, some p)

/-- Look up the grantor and the grantee of a record – each lookup an
`.expect` – and send the mails made from them. -/
def notifyUsers (env : JobEnv) (db : Db) (emer : EmergencyAccess) (mails : User → User → List Mail)
    (sent : List Notification) : List Notification × Option String :=
  match db.findUser emer.grantorUuid with
  | none => (sent, some "Grantor user not found.")
  | some grantorUser =>
    match emer.granteeUuid with
    | none => (sent, some "Grantee user invalid.")
    | some granteeUuid =>
      match db.findUser granteeUuid with
      | none => (sent, some "Grantee user not found.")
      | some granteeUser => sendMails env emer.uuid (mails grantorUser granteeUser) sent

/-- The mails of the timed-out job: the grantor learns the request timed
out, the grantee that it was approved. -/
def recoveryTimedOutMails (emer : EmergencyAccess) (grantorUser granteeUser : User) : List Mail :=
  [.emergencyAccessRecoveryTimedOut grantorUser.email granteeUser.name emer.getAtypeAsStr,
   .emergencyAccessRecoveryApproved granteeUser.email grantorUser.name]

/-- The mail of the reminder job: a reminder to the grantor. -/
def recoveryReminderMails (emer : EmergencyAccess) (grantorUser granteeUser : User) : List Mail :=
  [.emergencyAccessRecoveryReminder grantorUser.email granteeUser.name emer.getAtypeAsStr
    (toString emer.waitTimeDays.val)]

/-- The notification of `emergency_request_timed_out_job`. -/
def notifyRecoveryTimedOut (env : JobEnv) (db : Db) (emer : EmergencyAccess)
    (sent : List Notification) : List Notification × Option String :=
  notifyUsers env db emer (recoveryTimedOutMails emer) sent

/-- The notification of `emergency_notification_reminder_job`. -/
def notifyRecoveryReminder (env : JobEnv) (db : Db) (emer : EmergencyAccess)
    (sent : List Notification) : List Notification × Option String :=
  notifyUsers env db emer (recoveryReminderMails emer) sent

/-- **The loop body of both jobs**: when the condition holds, save the
updated record, then, with mail on, notify. -/
def recordStep (due : EmergencyAccess → NaiveDateTime → Except String Bool)
    (update : EmergencyAccess → EmergencyAccess)
    (notify : JobEnv → Db → EmergencyAccess → List Notification → List Notification × Option String)
    (env : JobEnv) (now : NaiveDateTime) (st : JobState) (emer : EmergencyAccess) :
    JobState × Option String :=
  match due emer now with
  | .error p => (st, some p)
  | .ok false => (st, none)
  | .ok true =>
    let emer := update emer
    match emer.save env.backend now st.db with
    | .error _ => (st, some "Cannot save emergency access on job")
    | .ok db =>
      if env.mailEnabled then
        let (sent, p) := notify env db emer st.sent
        ({ db, sent }, p)
      else ({ st with db }, none)

/-- `emer.status = EmergencyAccessStatus::RecoveryApproved as i32`. -/
def approve (emer : EmergencyAccess) : EmergencyAccess :=
  { emer with status := EmergencyAccessStatus.RecoveryApproved.toI32 }

/-- The loop body of `emergency_request_timed_out_job`. -/
def timedOutStep (env : JobEnv) (now : NaiveDateTime) : JobState → EmergencyAccess → JobState × Option String :=
  recordStep recoveryTimedOut approve notifyRecoveryTimedOut env now

/-- The loop body of `emergency_notification_reminder_job`: the record is
saved as it was read. -/
def reminderStep (env : JobEnv) (now : NaiveDateTime) : JobState → EmergencyAccess → JobState × Option String :=
  recordStep reminderDue id notifyRecoveryReminder env now

/-! ## What a step does

Everything the loop needs to know about a body is said by `RecordStepSpec`:
the rows it can touch, what it leaves in its own row, that it changes no
address or name, and the sends it attempts. Both bodies meet it, through
`recordStep_spec`. -/

/-- **What a loop body may do**: write only the row of the record it
processes, leaving `result emer` there – or, when it panics before saving,
the row as it was read; change no user's address or name; and attempt only
sends tagged with that record, of the shape `sends` says against the store
it was given when it does not panic. That shape reads the store's addresses
and names only. -/
structure RecordStepSpec (step : JobState → EmergencyAccess → JobState × Option String)
    (result : EmergencyAccess → EmergencyAccess)
    (sends : Db → EmergencyAccess → List Notification → Prop) : Prop where
  find_of_ne : ∀ st emer u, u ≠ emer.uuid → (step st emer).1.db.find u = st.db.find u
  find_self : ∀ st emer, st.db.find emer.uuid = some emer →
    (step st emer).1.db.find emer.uuid = some (result emer) ∨
      ((step st emer).2.isSome ∧ (step st emer).1.db.find emer.uuid = some emer)
  contacts : ∀ st emer, (step st emer).1.db.contacts = st.db.contacts
  sent : ∀ st emer, ∃ L, (step st emer).1.sent = st.sent ++ L ∧ (∀ n ∈ L, n.record = emer.uuid) ∧
    ((step st emer).2 = none → sends st.db emer L)
  sends_congr : ∀ db db' emer L, db.contacts = db'.contacts → sends db emer L → sends db' emer L

theorem RecordStepSpec.find_self_of_none {step : JobState → EmergencyAccess → JobState × Option String}
    {result : EmergencyAccess → EmergencyAccess} {sends : Db → EmergencyAccess → List Notification → Prop}
    (hs : RecordStepSpec step result sends) {st : JobState} {emer : EmergencyAccess}
    (hst : st.db.find emer.uuid = some emer) (h : (step st emer).2 = none) :
    (step st emer).1.db.find emer.uuid = some (result emer) := by
  rcases hs.find_self st emer hst with h' | ⟨hp, -⟩
  · exact h'
  · rw [h] at hp; cases hp

/-- The sends of one record are tagged with it, and when none fails they are
all of its mails, in order. -/
theorem sendMails_spec (env : JobEnv) (record : String) (ms : List Mail) (sent : List Notification) :
    ∃ L, (sendMails env record ms sent).1 = sent ++ L ∧ (∀ n ∈ L, n.record = record) ∧
      ((sendMails env record ms sent).2 = none → L = ms.map (⟨record, ·⟩)) := by
  induction ms generalizing sent with
  | nil => exact ⟨[], by simp [sendMails], by simp, fun _ => rfl⟩
  | cons m ms ih =>
    by_cases hm : env.mailer sent.length m = true
    · obtain ⟨L, hL, hr, hn⟩ := ih (sent ++ [⟨record, m⟩])
      rw [show sendMails env record (m :: ms) sent = sendMails env record ms (sent ++ [⟨record, m⟩])
        by simp [sendMails, sendMail, hm]]
      refine ⟨⟨record, m⟩ :: L, by simp [hL], ?_, fun h => by simp [hn h]⟩
      simpa only [List.mem_cons, forall_eq_or_imp, true_and] using hr
    · rw [show sendMails env record (m :: ms) sent =
        (sent ++ [⟨record, m⟩], some "Error on sending email") by simp [sendMails, sendMail, hm]]
      exact ⟨[⟨record, m⟩], rfl, by simp, fun h => by cases h⟩

/-- **The sends of a notification that did not panic**, against a store: the
store has the record's grantor and grantee, and the sends are the mails made
from them, in order, tagged with the record. -/
def Notified (mails : User → User → List Mail) (db : Db) (emer : EmergencyAccess)
    (L : List Notification) : Prop :=
  ∃ grantorUser granteeUser, db.findUser emer.grantorUuid = some grantorUser ∧
    emer.granteeUuid.bind db.findUser = some granteeUser ∧
    L = (mails grantorUser granteeUser).map (⟨emer.uuid, ·⟩)

/-- Mails made from the two users' addresses and names only. -/
def MailsByContact (mails : User → User → List Mail) : Prop :=
  ∀ g g' ge ge', g'.contact = g.contact → ge'.contact = ge.contact → mails g' ge' = mails g ge

/-- Such mails are notified alike against stores with the same contacts. -/
theorem Notified.of_contacts {mails : User → User → List Mail} (hm : MailsByContact mails)
    {db db' : Db} (hc : db.contacts = db'.contacts) {emer : EmergencyAccess} {L : List Notification}
    (h : Notified mails db emer L) : Notified mails db' emer L := by
  obtain ⟨g, ge, hg, hge, rfl⟩ := h
  obtain ⟨g', hg', hgc⟩ := Db.findUser_of_contacts hc hg
  cases hu : emer.granteeUuid with
  | none => rw [hu] at hge; cases hge
  | some u =>
    rw [hu, Option.some_bind] at hge
    obtain ⟨ge', hge', hgec⟩ := Db.findUser_of_contacts hc hge
    exact ⟨g', ge', hg', by rw [hu]; exact hge', by rw [hm g g' ge ge' hgc hgec]⟩

/-- A store determines the sends of a notification. -/
theorem Notified.unique {mails : User → User → List Mail} {db : Db} {emer : EmergencyAccess}
    {L L' : List Notification} (h : Notified mails db emer L) (h' : Notified mails db emer L') :
    L = L' := by
  obtain ⟨g, ge, hg, hge, rfl⟩ := h
  obtain ⟨g', ge', hg', hge', rfl⟩ := h'
  rw [hg] at hg'
  rw [hge] at hge'
  cases hg'; cases hge'; rfl

theorem recoveryTimedOutMails_byContact (emer : EmergencyAccess) :
    MailsByContact (recoveryTimedOutMails emer) := fun _ _ _ _ hg hge => by
  simp only [User.contact, Prod.mk.injEq] at hg hge
  simp only [recoveryTimedOutMails, hg, hge]

theorem recoveryReminderMails_byContact (emer : EmergencyAccess) :
    MailsByContact (recoveryReminderMails emer) := fun _ _ _ _ hg hge => by
  simp only [User.contact, Prod.mk.injEq] at hg hge
  simp only [recoveryReminderMails, hg, hge]

/-- The sends of a notification are tagged with its record, and when it does
not panic it found both users and sent every mail made from them. -/
theorem notifyUsers_spec (env : JobEnv) (db : Db) (emer : EmergencyAccess)
    (mails : User → User → List Mail) (sent : List Notification) :
    ∃ L, (notifyUsers env db emer mails sent).1 = sent ++ L ∧ (∀ n ∈ L, n.record = emer.uuid) ∧
      ((notifyUsers env db emer mails sent).2 = none → Notified mails db emer L) := by
  unfold notifyUsers
  split
  · exact ⟨[], by simp, by simp, fun h => by cases h⟩
  · rename_i g hg
    split
    · exact ⟨[], by simp, by simp, fun h => by cases h⟩
    · rename_i u hu
      split
      · exact ⟨[], by simp, by simp, fun h => by cases h⟩
      · rename_i ge hge
        obtain ⟨L, hL, hr, hn⟩ := sendMails_spec env emer.uuid (mails g ge) sent
        exact ⟨L, hL, hr, fun h => ⟨g, ge, hg, by rw [hu]; exact hge, hn h⟩⟩

section Step

variable {due : EmergencyAccess → NaiveDateTime → Except String Bool}
  {update : EmergencyAccess → EmergencyAccess}
  {notify : JobEnv → Db → EmergencyAccess → List Notification → List Notification × Option String}
  {env : JobEnv} {now : NaiveDateTime} {st : JobState} {emer : EmergencyAccess}

/-- The state a step leaves after a successful save, mail on or off. -/
def afterSave (notify : JobEnv → Db → EmergencyAccess → List Notification → List Notification × Option String)
    (env : JobEnv) (st : JobState) (emer : EmergencyAccess) (db : Db) : JobState × Option String :=
  if env.mailEnabled then
    ({ db, sent := (notify env db emer st.sent).1 }, (notify env db emer st.sent).2)
  else ({ st with db }, none)

@[simp] theorem afterSave_db (db : Db) : (afterSave notify env st emer db).1.db = db := by
  unfold afterSave; split <;> rfl

/-- **What one step can do**: panic in the condition, find it false, panic
on the save, or save and go on to the mails. -/
theorem recordStep_cases :
    (∃ p, due emer now = .error p ∧ recordStep due update notify env now st emer = (st, some p)) ∨
    (due emer now = .ok false ∧ recordStep due update notify env now st emer = (st, none)) ∨
    (due emer now = .ok true ∧ ∃ e, (update emer).save env.backend now st.db = .error e ∧
      recordStep due update notify env now st emer = (st, some "Cannot save emergency access on job")) ∨
    (due emer now = .ok true ∧ ∃ db, (update emer).save env.backend now st.db = .ok db ∧
      recordStep due update notify env now st emer = afterSave notify env st (update emer) db) := by
  rcases hdue : due emer now with p | _ | _
  · exact .inl ⟨p, rfl, by simp [recordStep, hdue]⟩
  · exact .inr (.inl ⟨rfl, by simp [recordStep, hdue]⟩)
  · rcases hs : (update emer).save env.backend now st.db with e | db
    · exact .inr (.inr (.inl ⟨rfl, e, rfl, by simp [recordStep, hdue, hs]⟩))
    · exact .inr (.inr (.inr ⟨rfl, db, rfl, by simp only [recordStep, hdue, hs, afterSave]⟩))

/-- The row a step leaves for a record it read as stored, when it does not
panic: the updated record, stamped, when the condition held. -/
def stepResult (due : EmergencyAccess → NaiveDateTime → Except String Bool)
    (update : EmergencyAccess → EmergencyAccess) (now : NaiveDateTime) (emer : EmergencyAccess) :
    EmergencyAccess :=
  match due emer now with
  | .ok true => { update emer with updatedAt := now }
  | _ => emer

/-- The sends of a step that did not panic, against the store it was given:
those of `notify`, of the shape `notified` says, when the condition held with
mail on, and none otherwise. -/
def stepSends (due : EmergencyAccess → NaiveDateTime → Except String Bool)
    (update : EmergencyAccess → EmergencyAccess)
    (notified : Db → EmergencyAccess → List Notification → Prop) (env : JobEnv) (now : NaiveDateTime)
    (db : Db) (emer : EmergencyAccess) (L : List Notification) : Prop :=
  match due emer now, env.mailEnabled with
  | .ok true, true => notified db (update emer) L
  | _, _ => L = []

/-- **Both loop bodies meet `RecordStepSpec`**, given an update that keeps the
key and a notification that tags its sends and reads only addresses and
names. -/
theorem recordStep_spec {notified : Db → EmergencyAccess → List Notification → Prop}
    (hu : ∀ e, (update e).uuid = e.uuid)
    (hn : ∀ env db e sent, ∃ L, (notify env db e sent).1 = sent ++ L ∧ (∀ n ∈ L, n.record = e.uuid) ∧
      ((notify env db e sent).2 = none → notified db e L))
    (hc : ∀ db db' e L, db.contacts = db'.contacts → notified db e L → notified db' e L) :
    RecordStepSpec (recordStep due update notify env now) (stepResult due update now)
      (stepSends due update notified env now) where
  find_of_ne st emer u hne := by
    rcases @recordStep_cases due update notify env now st emer with
      ⟨p, -, hr⟩ | ⟨-, hr⟩ | ⟨-, e, -, hr⟩ | ⟨-, db, hs, hr⟩
    iterate 3 rw [hr]
    rw [hr, afterSave_db]
    exact EmergencyAccess.find_save_of_ne hs (by rw [hu]; exact hne)
  find_self st emer hst := by
    rcases @recordStep_cases due update notify env now st emer with
      ⟨p, -, hr⟩ | ⟨hdue, hr⟩ | ⟨-, e, -, hr⟩ | ⟨hdue, db, hs, hr⟩
    · exact .inr (by simp [hr, hst])
    · exact .inl (by simp [hr, hst, stepResult, hdue])
    · exact .inr (by simp [hr, hst])
    · rw [hr, afterSave_db]
      rcases EmergencyAccess.find_save_self hs with hself | ⟨-, -, hnone, -⟩
      · exact .inl (by simpa only [stepResult, hdue, hu] using hself)
      · rw [hu, hst] at hnone; cases hnone
  contacts st emer := by
    rcases @recordStep_cases due update notify env now st emer with
      ⟨p, -, hr⟩ | ⟨-, hr⟩ | ⟨-, e, -, hr⟩ | ⟨-, db, hs, hr⟩
    iterate 3 rw [hr]
    rw [hr, afterSave_db]
    exact EmergencyAccess.save_contacts hs
  sent st emer := by
    rcases @recordStep_cases due update notify env now st emer with
      ⟨p, -, hr⟩ | ⟨hdue, hr⟩ | ⟨-, e, -, hr⟩ | ⟨hdue, db, hs, hr⟩
    · exact ⟨[], by simp [hr], by simp, fun h => by simp [hr] at h⟩
    · exact ⟨[], by simp [hr], by simp, fun _ => by simp [stepSends, hdue]⟩
    · exact ⟨[], by simp [hr], by simp, fun h => by simp [hr] at h⟩
    · rw [hr]
      unfold afterSave
      cases hm : env.mailEnabled
      · exact ⟨[], by simp, by simp, fun _ => by simp [stepSends, hdue, hm]⟩
      · obtain ⟨L, hL, hr, hN⟩ := hn env db (update emer) st.sent
        refine ⟨L, by simpa using hL, fun n hn' => by rw [hr n hn', hu], fun h => ?_⟩
        have hnot := hc _ _ _ _ (EmergencyAccess.save_contacts hs) (hN (by simpa using h))
        simpa [stepSends, hdue, hm] using hnot
  sends_congr db db' emer L hcon h := by
    rcases hd : due emer now with p | _ | _ <;> cases hm : env.mailEnabled <;>
      simp only [stepSends, hd, hm] at h ⊢
    all_goals first | exact h | exact hc _ _ _ _ hcon h

/-- **A step saves its snapshot blindly**: when the condition held on the
record as read and the users it names exist, the row ends as the updated
record, whatever the row held before – panic in the mails or not. -/
theorem recordStep_find_of_referencesExist (hdue : due emer now = .ok true)
    (href : st.db.referencesExist (update emer) = true) :
    (recordStep due update notify env now st emer).1.db.find (update emer).uuid =
      some { update emer with updatedAt := now } := by
  obtain ⟨db, hs, hf, -⟩ := @EmergencyAccess.save_of_referencesExist (update emer) env.backend now
    st.db href
  rcases @recordStep_cases due update notify env now st emer with
    ⟨p, h, -⟩ | ⟨h, -⟩ | ⟨-, e, h, -⟩ | ⟨-, db', hs', hr⟩
  · rw [hdue] at h; cases h
  · rw [hdue] at h; cases h
  · rw [hs] at h; cases h
  · rw [hs] at hs'; cases hs'
    rw [hr, afterSave_db]
    exact hf

end Step

/-- The sends of a timed-out notification that did not panic, against a
store: to the grantor it holds, that the request timed out, then to the
grantee it holds, that it was approved. -/
def timedOutNotified (db : Db) (emer : EmergencyAccess) (L : List Notification) : Prop :=
  Notified (recoveryTimedOutMails emer) db emer L

/-- The send of a reminder that did not panic, against a store: one reminder
to the grantor it holds. -/
def reminderNotified (db : Db) (emer : EmergencyAccess) (L : List Notification) : Prop :=
  Notified (recoveryReminderMails emer) db emer L

theorem timedOutStep_spec (env : JobEnv) (now : NaiveDateTime) :
    RecordStepSpec (timedOutStep env now) (stepResult recoveryTimedOut approve now)
      (stepSends recoveryTimedOut approve timedOutNotified env now) :=
  recordStep_spec (fun _ => rfl) (fun env db e sent => notifyUsers_spec env db e _ sent)
    fun _ _ e _ hc h => Notified.of_contacts (recoveryTimedOutMails_byContact e) hc h

theorem reminderStep_spec (env : JobEnv) (now : NaiveDateTime) :
    RecordStepSpec (reminderStep env now) (stepResult reminderDue id now)
      (stepSends reminderDue id reminderNotified env now) :=
  recordStep_spec (fun _ => rfl) (fun env db e sent => notifyUsers_spec env db e _ sent)
    fun _ _ e _ hc h => Notified.of_contacts (recoveryReminderMails_byContact e) hc h

/-! ## The loop and the jobs -/

/-- `for x in xs { .. }` where the body may panic, and a panic ends the run:
the state it leaves, and the panic, if any. -/
def forEachUntilPanic {α : Type} (step : JobState → α → JobState × Option String) :
    JobState → List α → JobState × Option String
  | st, [] => (st, none)
  | st, x :: xs =>
    match step st x with
    | (st', none) => forEachUntilPanic step st' xs
    | (st', some p) => (st', some p)

/-- **`emergency_request_timed_out_job`**, one run at `now`. -/
def emergencyRequestTimedOutJob (env : JobEnv) (now : NaiveDateTime) (st : JobState) :
    JobState × Option String :=
  forEachUntilPanic (timedOutStep env now) st (EmergencyAccess.findAllRecoveries st.db)

/-- **`emergency_notification_reminder_job`**, one run at `now`. -/
def emergencyNotificationReminderJob (env : JobEnv) (now : NaiveDateTime) (st : JobState) :
    JobState × Option String :=
  forEachUntilPanic (reminderStep env now) st (EmergencyAccess.findAllRecoveries st.db)

theorem forEachUntilPanic_cons {α : Type} (step : JobState → α → JobState × Option String)
    (st : JobState) (x : α) (xs : List α) :
    forEachUntilPanic step st (x :: xs) =
      match (step st x).2 with
      | none => forEachUntilPanic step (step st x).1 xs
      | some p => ((step st x).1, some p) := by
  simp only [forEachUntilPanic]
  rcases step st x with ⟨st', _ | p⟩ <;> rfl

/-- Whatever every step keeps, a loop keeps. -/
theorem forEachUntilPanic_inv {α : Type} {step : JobState → α → JobState × Option String}
    (P : JobState → Prop) (l : List α) (h : ∀ st x, x ∈ l → P st → P (step st x).1)
    (st : JobState) (hst : P st) : P (forEachUntilPanic step st l).1 := by
  induction l generalizing st with
  | nil => exact hst
  | cons x xs ih =>
    rw [forEachUntilPanic_cons]
    have hx := h st x (List.mem_cons_self x xs) hst
    cases (step st x).2
    · exact ih (fun st y hy => h st y (List.mem_cons_of_mem x hy)) _ hx
    · exact hx

/-- The sends about one record. -/
def sentFor (sent : List Notification) (u : String) : List Notification :=
  sent.filter (·.record == u)

theorem sentFor_append (L L' : List Notification) (u : String) :
    sentFor (L ++ L') u = sentFor L u ++ sentFor L' u := List.filter_append _ _

theorem sentFor_eq_nil {L : List Notification} {u : String} (h : ∀ n ∈ L, n.record ≠ u) :
    sentFor L u = [] :=
  List.filter_eq_nil_iff.2 fun n hn => by simpa using h n hn

theorem sentFor_eq_self {L : List Notification} {u : String} (h : ∀ n ∈ L, n.record = u) :
    sentFor L u = L :=
  List.filter_eq_self.2 fun n hn => by simpa using h n hn

/-- The sends about the record of a step, followed by sends about other
records, are the step's. -/
theorem sentFor_append_self {Le L : List Notification} {u : String} (he : ∀ n ∈ Le, n.record = u)
    (hL : ∀ n ∈ L, n.record ≠ u) : sentFor (Le ++ L) u = Le := by
  rw [sentFor_append, sentFor_eq_self he, sentFor_eq_nil hL, List.append_nil]

/-- A step adds no sends about another record. -/
theorem sentFor_append_of_ne {Le L : List Notification} {u v : String} (he : ∀ n ∈ Le, n.record = u)
    (hv : v ≠ u) : sentFor (Le ++ L) v = sentFor L v := by
  rw [sentFor_append, sentFor_eq_nil fun n hn => by rw [he n hn]; exact hv.symm, List.nil_append]

section Loop

variable {step : JobState → EmergencyAccess → JobState × Option String}
  {result : EmergencyAccess → EmergencyAccess} {sends : Db → EmergencyAccess → List Notification → Prop}
  (hs : RecordStepSpec step result sends)
include hs

/-- A run changes no user's address or name. -/
theorem forEachUntilPanic_contacts (st : JobState) (l : List EmergencyAccess) :
    (forEachUntilPanic step st l).1.db.contacts = st.db.contacts :=
  forEachUntilPanic_inv (fun st' => st'.db.contacts = st.db.contacts) l
    (fun st' e _ h => (hs.contacts st' e).trans h) st rfl

/-- A run writes no row outside the records it was given. -/
theorem forEachUntilPanic_find_of_not_mem {st : JobState} {l : List EmergencyAccess} {u : String}
    (hu : u ∉ l.map EmergencyAccess.uuid) :
    (forEachUntilPanic step st l).1.db.find u = st.db.find u := by
  induction l generalizing st with
  | nil => rfl
  | cons e rest ih =>
    simp only [List.map_cons, List.mem_cons, not_or] at hu
    rw [forEachUntilPanic_cons, ← hs.find_of_ne st e u hu.1]
    cases (step st e).2
    · exact ih hu.2
    · rfl

/-- The records after the head are still stored as read once its step is
done. -/
theorem step_find_rest {st : JobState} {e : EmergencyAccess} {rest : List EmergencyAccess}
    (hnd : e.uuid ∉ rest.map EmergencyAccess.uuid) (hst : ∀ r ∈ e :: rest, st.db.find r.uuid = some r) :
    ∀ r ∈ rest, r.uuid ≠ e.uuid ∧ (step st e).1.db.find r.uuid = some r := fun r hr =>
  have hne : r.uuid ≠ e.uuid := fun hre => hnd (hre ▸ List.mem_map_of_mem _ hr)
  ⟨hne, (hs.find_of_ne st e _ hne).trans (hst r (List.mem_cons_of_mem _ hr))⟩

/-- **A step on the head that does not panic**, followed by a run over the
rest whose sends are about the rest: the head's row ends as its result, the
sends about it are its step's, and the sends about any other key are the
rest's. -/
theorem forEachUntilPanic_head {st : JobState} {e : EmergencyAccess} {rest : List EmergencyAccess}
    (hnd : e.uuid ∉ rest.map EmergencyAccess.uuid) (hst : st.db.find e.uuid = some e)
    (hp : (step st e).2 = none) {L : List Notification}
    (htr : ∀ n ∈ L, n.record ∈ rest.map EmergencyAccess.uuid) :
    ∃ Le, (step st e).1.sent = st.sent ++ Le ∧
      (∀ n ∈ Le ++ L, n.record ∈ (e :: rest).map EmergencyAccess.uuid) ∧
      (forEachUntilPanic step (step st e).1 rest).1.db.find e.uuid = some (result e) ∧
      sends st.db e (sentFor (Le ++ L) e.uuid) ∧
      ∀ u, u ≠ e.uuid → sentFor (Le ++ L) u = sentFor L u := by
  obtain ⟨Le, he, hte, hse⟩ := hs.sent st e
  refine ⟨Le, he, fun n hn => ?_, ?_, ?_, fun u hu => sentFor_append_of_ne hte hu⟩
  · rcases List.mem_append.1 hn with hn | hn
    · simp [hte n hn]
    · exact List.mem_cons_of_mem _ (htr n hn)
  · rw [forEachUntilPanic_find_of_not_mem hs hnd]
    exact hs.find_self_of_none hst hp
  · rw [sentFor_append_self hte fun n hn hre => hnd (hre ▸ htr n hn)]
    exact hse hp

variable {st : JobState} {l : List EmergencyAccess}
  (hnd : (l.map EmergencyAccess.uuid).Nodup) (hst : ∀ e ∈ l, st.db.find e.uuid = some e)
include hnd hst

/-- **A run that does not panic processes every record**: each row ends as
its result, and the sends about each record are those of its own step,
against the store the run started from. -/
theorem forEachUntilPanic_of_none (h : (forEachUntilPanic step st l).2 = none) :
    ∃ L, (forEachUntilPanic step st l).1.sent = st.sent ++ L ∧
      (∀ n ∈ L, n.record ∈ l.map EmergencyAccess.uuid) ∧
      ∀ e ∈ l, (forEachUntilPanic step st l).1.db.find e.uuid = some (result e) ∧
        sends st.db e (sentFor L e.uuid) := by
  induction l generalizing st with
  | nil => exact ⟨[], by simp [forEachUntilPanic], by simp, by simp⟩
  | cons e rest ih =>
    simp only [List.map_cons, List.nodup_cons] at hnd
    have hrest := step_find_rest hs hnd.1 hst
    rw [forEachUntilPanic_cons] at h ⊢
    rcases hp : (step st e).2 with _ | p
    · rw [hp] at h
      obtain ⟨L, hL, htr, hall⟩ := ih hnd.2 (fun r hr => (hrest r hr).2) h
      obtain ⟨Le, he, htags, hfe, hse, hfor⟩ :=
        forEachUntilPanic_head hs hnd.1 (hst e (List.mem_cons_self _ _)) hp htr
      refine ⟨Le ++ L, by rw [hL, he, List.append_assoc], htags,
        List.forall_mem_cons.2 ⟨⟨hfe, hse⟩, fun r hr => ⟨(hall r hr).1, ?_⟩⟩⟩
      rw [hfor _ (hrest r hr).1]
      exact hs.sends_congr _ _ _ _ (hs.contacts st e) (hall r hr).2
    · rw [hp] at h; cases h

/-- **A run that panics stops at the record it panicked on**: the records
before it are processed, with the sends of their steps; its own row is its
result or as it was read; the records after it are not touched, and nothing
is sent about them. -/
theorem forEachUntilPanic_of_some {p : String} (h : (forEachUntilPanic step st l).2 = some p) :
    ∃ pre e post L, l = pre ++ e :: post ∧ (forEachUntilPanic step st l).1.sent = st.sent ++ L ∧
      (∀ n ∈ L, n.record ∈ l.map EmergencyAccess.uuid) ∧
      (∀ r ∈ pre, (forEachUntilPanic step st l).1.db.find r.uuid = some (result r) ∧
        sends st.db r (sentFor L r.uuid)) ∧
      ((forEachUntilPanic step st l).1.db.find e.uuid = some (result e) ∨
        (forEachUntilPanic step st l).1.db.find e.uuid = some e) ∧
      ∀ r ∈ post, (forEachUntilPanic step st l).1.db.find r.uuid = some r ∧ sentFor L r.uuid = [] := by
  induction l generalizing st with
  | nil => cases h
  | cons e rest ih =>
    simp only [List.map_cons, List.nodup_cons] at hnd
    have hrest := step_find_rest hs hnd.1 hst
    rw [forEachUntilPanic_cons] at h ⊢
    rcases hp : (step st e).2 with _ | q
    · rw [hp] at h
      obtain ⟨pre, e', post, L, rfl, hL, htr, hpre, he', hpost⟩ :=
        ih hnd.2 (fun r hr => (hrest r hr).2) h
      obtain ⟨Le, he, htags, hfe, hse, hfor⟩ :=
        forEachUntilPanic_head hs hnd.1 (hst e (List.mem_cons_self _ _)) hp htr
      refine ⟨e :: pre, e', post, Le ++ L, rfl, by rw [hL, he, List.append_assoc], htags,
        List.forall_mem_cons.2 ⟨⟨hfe, hse⟩, fun r hr => ⟨(hpre r hr).1, ?_⟩⟩, he',
        fun r hr => ⟨(hpost r hr).1, ?_⟩⟩
      · rw [hfor _ (hrest r (List.mem_append_left _ hr)).1]
        exact hs.sends_congr _ _ _ _ (hs.contacts st e) (hpre r hr).2
      · rw [hfor _ (hrest r (List.mem_append_right _ (List.mem_cons_of_mem _ hr))).1]
        exact (hpost r hr).2
    · obtain ⟨Le, he, hte, -⟩ := hs.sent st e
      refine ⟨[], e, rest, Le, rfl, he, fun n hn => by simp [hte n hn], by simp,
        (hs.find_self st e (hst e (List.mem_cons_self _ _))).imp id (·.2), fun r hr =>
          ⟨(hrest r hr).2, sentFor_eq_nil fun n hn => by rw [hte n hn]; exact (hrest r hr).1.symm⟩⟩

/-- **What a run can do to a row**, panic or not: leave it, or leave the
result of the record with its key. -/
theorem forEachUntilPanic_find (u : String) :
    (forEachUntilPanic step st l).1.db.find u = st.db.find u ∨
      ∃ e ∈ l, e.uuid = u ∧ (forEachUntilPanic step st l).1.db.find u = some (result e) := by
  by_cases hu : u ∈ l.map EmergencyAccess.uuid
  · obtain ⟨e, he, rfl⟩ := List.mem_map.1 hu
    rcases hp : (forEachUntilPanic step st l).2 with _ | p
    · obtain ⟨_, _, _, hall⟩ := forEachUntilPanic_of_none hs hnd hst hp
      exact .inr ⟨e, he, rfl, (hall e he).1⟩
    · obtain ⟨pre, e', post, L, rfl, -, -, hpre, he', hpost⟩ := forEachUntilPanic_of_some hs hnd hst hp
      rcases List.mem_append.1 he with he | he
      · exact .inr ⟨e, List.mem_append_left _ he, rfl, (hpre e he).1⟩
      · rcases List.mem_cons.1 he with rfl | he
        · have he := List.mem_append_right pre (List.mem_cons_self e post)
          exact he'.elim (fun h => .inr ⟨e, he, rfl, h⟩) (fun h => .inl (h.trans (hst e he).symm))
        · exact .inl ((hpost e he).1.trans (hst e (List.mem_append_right _
            (List.mem_cons_of_mem _ he))).symm)
  · exact .inl (forEachUntilPanic_find_of_not_mem hs hu)

end Loop

theorem not_mem_findAllRecoveries {db : Db} {u : String}
    (h : ∀ e, db.find u = some e → e.status ≠ EmergencyAccessStatus.RecoveryInitiated.toI32) :
    u ∉ (EmergencyAccess.findAllRecoveries db).map EmergencyAccess.uuid := by
  intro hu
  obtain ⟨e, he, rfl⟩ := List.mem_map.1 hu
  obtain ⟨hfind, hstatus⟩ := EmergencyAccess.mem_findAllRecoveries.1 he
  exact h e hfind hstatus

section Recoveries

variable {step : JobState → EmergencyAccess → JobState × Option String}
  {result : EmergencyAccess → EmergencyAccess} {sends : Db → EmergencyAccess → List Notification → Prop}
  (hs : RecordStepSpec step result sends) {st : JobState}
include hs

/-- **One run over `find_all_recoveries` that does not panic**: every row in
`RecoveryInitiated` ends as its result, with the sends about it those of its
own step; every other key is left as it was, with no sends about it. -/
theorem recoveriesRun_of_none
    (h : (forEachUntilPanic step st (EmergencyAccess.findAllRecoveries st.db)).2 = none) :
    ∃ L, (forEachUntilPanic step st (EmergencyAccess.findAllRecoveries st.db)).1.sent =
        st.sent ++ L ∧
      (∀ e, st.db.find e.uuid = some e → e.status = EmergencyAccessStatus.RecoveryInitiated.toI32 →
        (forEachUntilPanic step st (EmergencyAccess.findAllRecoveries st.db)).1.db.find e.uuid =
          some (result e) ∧ sends st.db e (sentFor L e.uuid)) ∧
      ∀ u, (∀ e, st.db.find u = some e → e.status ≠ EmergencyAccessStatus.RecoveryInitiated.toI32) →
        (forEachUntilPanic step st (EmergencyAccess.findAllRecoveries st.db)).1.db.find u =
          st.db.find u ∧ sentFor L u = [] := by
  obtain ⟨L, hL, htags, hall⟩ := forEachUntilPanic_of_none hs EmergencyAccess.findAllRecoveries_nodup
    (fun _ he => (EmergencyAccess.mem_findAllRecoveries.1 he).1) h
  refine ⟨L, hL, fun e hf hst => hall e (EmergencyAccess.mem_findAllRecoveries.2 ⟨hf, hst⟩),
    fun u hu => ⟨forEachUntilPanic_find_of_not_mem hs (not_mem_findAllRecoveries hu), ?_⟩⟩
  exact sentFor_eq_nil fun n hn hre => not_mem_findAllRecoveries hu (hre ▸ htags n hn)

/-- **One run over `find_all_recoveries` that panics**: the records before the
one it panicked on are processed, with the sends of their steps; that one is
processed or left; the records after it are left in `RecoveryInitiated`, with
nothing sent about them. -/
theorem recoveriesRun_of_some {p : String}
    (h : (forEachUntilPanic step st (EmergencyAccess.findAllRecoveries st.db)).2 = some p) :
    ∃ pre e post L, EmergencyAccess.findAllRecoveries st.db = pre ++ e :: post ∧
      (forEachUntilPanic step st (EmergencyAccess.findAllRecoveries st.db)).1.sent = st.sent ++ L ∧
      (∀ r ∈ pre, (forEachUntilPanic step st (EmergencyAccess.findAllRecoveries st.db)).1.db.find r.uuid =
        some (result r) ∧ sends st.db r (sentFor L r.uuid)) ∧
      ((forEachUntilPanic step st (EmergencyAccess.findAllRecoveries st.db)).1.db.find e.uuid =
          some (result e) ∨
        (forEachUntilPanic step st (EmergencyAccess.findAllRecoveries st.db)).1.db.find e.uuid = some e) ∧
      ∀ r ∈ post, (forEachUntilPanic step st (EmergencyAccess.findAllRecoveries st.db)).1.db.find r.uuid =
        some r ∧ sentFor L r.uuid = [] := by
  obtain ⟨pre, e, post, L, hl, hL, -, hpre, he, hpost⟩ := forEachUntilPanic_of_some hs
    EmergencyAccess.findAllRecoveries_nodup (fun _ he => (EmergencyAccess.mem_findAllRecoveries.1 he).1) h
  exact ⟨pre, e, post, L, hl, hL, hpre, he, hpost⟩

end Recoveries

section RecordRuns

variable {due : EmergencyAccess → NaiveDateTime → Except String Bool}
  {update : EmergencyAccess → EmergencyAccess}
  {notify : JobEnv → Db → EmergencyAccess → List Notification → List Notification × Option String}
  {notified : Db → EmergencyAccess → List Notification → Prop} {env : JobEnv} {now : NaiveDateTime}
  {st : JobState}
  (hs : RecordStepSpec (recordStep due update notify env now) (stepResult due update now)
    (stepSends due update notified env now))
include hs

/-- A run that does not panic saves a row in `RecoveryInitiated` whose
condition holds as the updated record, stamped with the run's time; the sends
about it are those of its notification against the store the run started
from when mail is on, and none when it is off. -/
theorem recordRun_of_due {r : EmergencyAccess} (hr : st.db.find r.uuid = some r)
    (hRI : r.status = EmergencyAccessStatus.RecoveryInitiated.toI32) (hdue : due r now = .ok true)
    (h : (forEachUntilPanic (recordStep due update notify env now) st
      (EmergencyAccess.findAllRecoveries st.db)).2 = none) :
    (forEachUntilPanic (recordStep due update notify env now) st
        (EmergencyAccess.findAllRecoveries st.db)).1.db.find r.uuid =
        some { update r with updatedAt := now } ∧
      ∃ L, sentFor (forEachUntilPanic (recordStep due update notify env now) st
          (EmergencyAccess.findAllRecoveries st.db)).1.sent r.uuid = sentFor st.sent r.uuid ++ L ∧
        if env.mailEnabled then notified st.db (update r) L else L = [] := by
  obtain ⟨L, hL, hall, -⟩ := recoveriesRun_of_none hs h
  obtain ⟨hf, hsends⟩ := hall r hr hRI
  refine ⟨by simpa [stepResult, hdue] using hf, sentFor L r.uuid, by rw [hL, sentFor_append], ?_⟩
  cases hm : env.mailEnabled <;> simpa [stepSends, hdue, hm] using hsends

end RecordRuns

/-! ## When a run panics

Each job ends its run at the first panic, so a record the loop has not reached
by then waits for the next run – whatever its deadline. -/

/-- **A run of either job stops at its first panic**: the records of
`find_all_recoveries` before the one it panicked on are processed, with the
mails of their steps sent against the store the run started from; the one it
panicked on is processed or left; those after it are left as they were, and
no mail about them is attempted. -/
theorem recoveryJobs_stop_at_first_panic (env : JobEnv) (now : NaiveDateTime) (st : JobState) :
    (∀ p, (emergencyRequestTimedOutJob env now st).2 = some p →
      ∃ pre e post L, EmergencyAccess.findAllRecoveries st.db = pre ++ e :: post ∧
        (emergencyRequestTimedOutJob env now st).1.sent = st.sent ++ L ∧
        (∀ r ∈ pre, (emergencyRequestTimedOutJob env now st).1.db.find r.uuid =
            some (stepResult recoveryTimedOut approve now r) ∧
          stepSends recoveryTimedOut approve timedOutNotified env now st.db r (sentFor L r.uuid)) ∧
        ((emergencyRequestTimedOutJob env now st).1.db.find e.uuid =
            some (stepResult recoveryTimedOut approve now e) ∨
          (emergencyRequestTimedOutJob env now st).1.db.find e.uuid = some e) ∧
        ∀ r ∈ post, (emergencyRequestTimedOutJob env now st).1.db.find r.uuid = some r ∧
          sentFor L r.uuid = []) ∧
    (∀ p, (emergencyNotificationReminderJob env now st).2 = some p →
      ∃ pre e post L, EmergencyAccess.findAllRecoveries st.db = pre ++ e :: post ∧
        (emergencyNotificationReminderJob env now st).1.sent = st.sent ++ L ∧
        (∀ r ∈ pre, (emergencyNotificationReminderJob env now st).1.db.find r.uuid =
            some (stepResult reminderDue id now r) ∧
          stepSends reminderDue id reminderNotified env now st.db r (sentFor L r.uuid)) ∧
        ((emergencyNotificationReminderJob env now st).1.db.find e.uuid =
            some (stepResult reminderDue id now e) ∨
          (emergencyNotificationReminderJob env now st).1.db.find e.uuid = some e) ∧
        ∀ r ∈ post, (emergencyNotificationReminderJob env now st).1.db.find r.uuid = some r ∧
          sentFor L r.uuid = []) :=
  ⟨fun _ h => recoveriesRun_of_some (timedOutStep_spec env now) h,
    fun _ h => recoveriesRun_of_some (reminderStep_spec env now) h⟩

/-- 2024-01-10T00:00:00, nine days later. -/
def jan10 : NaiveDateTime := ⟨1704844800000000000, by decide⟩

/-- Two recoveries whose seven days are over by `jan10`. -/
def twoRecoveries : JobState :=
  ⟨recoveryDb [sampleRecovery "e1" sevenDays, sampleRecovery "e2" sevenDays] (by decide), []⟩

/-- SQLite, mail on, and a mail server that refuses every send. -/
def mailDown : JobEnv := ⟨.sqlite, true, fun _ _ => false⟩

/-- With the mail server down, each job panics on the first recovery and never
reaches the second, though its deadline has passed too. -/
theorem recoveryJobs_skip_after_mail_failure :
    (emergencyRequestTimedOutJob mailDown jan10 twoRecoveries).2 = some "Error on sending email" ∧
      recoveryTimedOut (sampleRecovery "e2" sevenDays) jan10 = .ok true ∧
      (emergencyRequestTimedOutJob mailDown jan10 twoRecoveries).1.db.find "e2" =
        some (sampleRecovery "e2" sevenDays) ∧
      (emergencyNotificationReminderJob mailDown jan10 twoRecoveries).2 = some "Error on sending email" ∧
      reminderDue (sampleRecovery "e2" sevenDays) jan10 = .ok true ∧
      (emergencyNotificationReminderJob mailDown jan10 twoRecoveries).1.db.find "e2" =
        some (sampleRecovery "e2" sevenDays) :=
  ⟨rfl, rfl, rfl, rfl, rfl, rfl⟩

/-- **The conditions of both jobs panic exactly when their date arithmetic
leaves chrono's range**: for the timed-out job when `initiated +
wait_time_days` does, for the reminder job when `initiated + (wait_time_days -
1)` does, or – that time passed – `last_notification_at` plus a day. -/
theorem recoveryConditions_isOk_iff {emer : EmergencyAccess} {now T : NaiveDateTime}
    (hT : emer.recoveryInitiatedAt = some T) :
    ((recoveryTimedOut emer now).isOk = true ↔
      minNanos ≤ T.nanos + emer.waitTimeDays.val * nanosPerDay ∧
        T.nanos + emer.waitTimeDays.val * nanosPerDay ≤ maxNanos) ∧
    ((reminderDue emer now).isOk = true ↔
      (minNanos ≤ T.nanos + (emer.waitTimeDays.val - 1) * nanosPerDay ∧
        T.nanos + (emer.waitTimeDays.val - 1) * nanosPerDay ≤ maxNanos) ∧
      (T.nanos + (emer.waitTimeDays.val - 1) * nanosPerDay ≤ now.nanos →
        ∀ last, emer.lastNotificationAt = some last → last.nanos + nanosPerDay ≤ maxNanos)) :=
  ⟨recoveryTimedOut_isOk_iff hT, reminderDue_isOk_iff hT⟩

/-- A seven-day recovery initiated on `jan1` is nowhere near the range. -/
theorem recoveryConditions_isOk_iff_sample :
    (sampleRecovery "e1" sevenDays).recoveryInitiatedAt = some jan1 ∧
      (((recoveryTimedOut (sampleRecovery "e1" sevenDays) jan10).isOk = true ↔
        minNanos ≤ jan1.nanos + (sampleRecovery "e1" sevenDays).waitTimeDays.val * nanosPerDay ∧
          jan1.nanos + (sampleRecovery "e1" sevenDays).waitTimeDays.val * nanosPerDay ≤ maxNanos) ∧
      ((reminderDue (sampleRecovery "e1" sevenDays) jan10).isOk = true ↔
        (minNanos ≤ jan1.nanos + ((sampleRecovery "e1" sevenDays).waitTimeDays.val - 1) * nanosPerDay ∧
          jan1.nanos + ((sampleRecovery "e1" sevenDays).waitTimeDays.val - 1) * nanosPerDay ≤
            maxNanos) ∧
        (jan1.nanos + ((sampleRecovery "e1" sevenDays).waitTimeDays.val - 1) * nanosPerDay ≤
            jan10.nanos →
          ∀ last, (sampleRecovery "e1" sevenDays).lastNotificationAt = some last →
            last.nanos + nanosPerDay ≤ maxNanos))) :=
  ⟨rfl, recoveryConditions_isOk_iff rfl⟩

/-- The largest wait time an `i32` holds. -/
def i32Max : I32 := ⟨2147483647, by decide⟩

/-- One recovery, initiated on `jan1` with the largest wait time. -/
def longRecovery : JobState :=
  ⟨recoveryDb [sampleRecovery "e1" i32Max] (by decide), []⟩

/-- SQLite, mail on, and a mail server that accepts every send. -/
def mailUp : JobEnv := ⟨.sqlite, true, fun _ _ => true⟩

/-- A wait time of `i32::MAX` days, a valid `i32` that nothing bounds, makes
both conditions overflow, and each job's run panics on it. -/
theorem recoveryConditions_overflow_i32Max :
    recoveryTimedOut (sampleRecovery "e1" i32Max) jan10 = .error "`NaiveDateTime + Duration` overflowed" ∧
      reminderDue (sampleRecovery "e1" i32Max) jan10 = .error "`NaiveDateTime + Duration` overflowed" ∧
      (emergencyRequestTimedOutJob mailUp jan10 longRecovery).2 =
        some "`NaiveDateTime + Duration` overflowed" ∧
      (emergencyNotificationReminderJob mailUp jan10 longRecovery).2 =
        some "`NaiveDateTime + Duration` overflowed" :=
  ⟨rfl, rfl, rfl, rfl⟩

end BitwardenRs
