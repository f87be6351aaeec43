import BitwardenRs.Schedule

/-!
# A job run among other writers

A run of either job reads the records in `RecoveryInitiated` once, with
`find_all_recoveries`, and then goes through that list, saving each record it
acts on with `EmergencyAccess::save`. Nothing stops other requests – a grantor
rejecting the recovery, either side deleting the emergency access – from
committing their own `save` or `delete` between the read and the job's write
of that record. And `save` is an upsert that looks at nothing the row holds: it
inserts when the row is gone and overwrites it when it is there.

This module puts one run and the other writers in one world, as events in any
interleaving. Other writers never move the run (`run_pc_of_isWriter`), so
the step that follows their writes is the run's step on the record as it read
it. When the condition held on that record and its users still exist, the
step leaves the job's version of the record in the row, whatever was
committed in between (`recoveryJobs_write_snapshot`): a deleted record comes
back, and a changed status is overwritten
(`recoveryJobs_overwrite_concurrent_writes`).
-/

namespace BitwardenRs

/-- Where a run of a job is. -/
inductive JobPc
  /-- Not started. -/
  | idle
  /-- Started at `now`, with the records of its read still to process. -/
  | running (now : NaiveDateTime) (pending : List EmergencyAccess)
  /-- Through its list. -/
  | finished
  /-- Ended by a panic. -/
  | panicked (p : String)

/-- **The world**: the database and the sends, and where the run is. -/
structure World where
  st : JobState
  pc : JobPc

/-- What can happen next. -/
inductive Event
  /-- The run starts at `now` and reads `find_all_recoveries`. -/
  | jobRead (now : NaiveDateTime)
  /-- The run processes its next record. -/
  | jobStep
  /-- Another request's `EmergencyAccess::save` at `now`. -/
  | save (r : EmergencyAccess) (now : NaiveDateTime)
  /-- Another request's `EmergencyAccess::delete` at `now`. -/
  | delete (r : EmergencyAccess) (now : NaiveDateTime)

/-- The events of other writers. -/
def Event.isWriter : Event → Bool
  | .save _ _ | .delete _ _ => true
  | _ => false

namespace World

variable (step : NaiveDateTime → JobState → EmergencyAccess → JobState × Option String)
  (backend : DbBackend)

/-- **One event.** A failed save of another writer changes nothing. -/
def apply (w : World) : Event → World
  | .jobRead now =>
    match w.pc with
    | .idle => { w with pc := .running now (EmergencyAccess.findAllRecoveries w.st.db) }
    | _ => w
  | .jobStep =>
    match w.pc with
    | .running _ [] => { w with pc := .finished }
    | .running now (emer :: rest) =>
      match step now w.st emer with
      | (st, none) => ⟨st, .running now rest⟩
      | (st, some p) => ⟨st, .panicked p⟩
    | _ => w
  | .save r now =>
    match r.save backend now w.st.db with
    | .ok db => { w with st := { w.st with db } }
    | .error _ => w
  | .delete r now => { w with st := { w.st with db := r.delete now w.st.db } }

/-- Events one after another. -/
def run (w : World) (evs : List Event) : World :=
  evs.foldl (apply step backend) w

variable {step backend} {w : World}

theorem run_cons (ev : Event) (evs : List Event) :
    run step backend w (ev :: evs) = run step backend (w.apply step backend ev) evs := rfl

/-- The state a step of the run leaves, panic or not. -/
theorem apply_jobStep_st {now : NaiveDateTime} {emer : EmergencyAccess} {rest : List EmergencyAccess}
    (hpc : w.pc = .running now (emer :: rest)) :
    (w.apply step backend .jobStep).st = (step now w.st emer).1 := by
  simp only [apply, hpc]
  rcases step now w.st emer with ⟨st, _ | p⟩ <;> rfl

/-- **Other writers never move the run.** -/
theorem apply_pc_of_isWriter {ev : Event} (h : ev.isWriter = true) :
    (w.apply step backend ev).pc = w.pc := by
  cases ev with
  | jobRead => cases h
  | jobStep => cases h
  | save r now => simp only [apply]; split <;> rfl
  | delete r now => rfl

theorem run_pc_of_isWriter {evs : List Event} (h : ∀ ev ∈ evs, ev.isWriter = true) :
    (run step backend w evs).pc = w.pc := by
  induction evs generalizing w with
  | nil => rfl
  | cons ev evs ih =>
    rw [run_cons, ih fun ev' hev' => h ev' (List.mem_cons_of_mem _ hev'),
      apply_pc_of_isWriter (h ev (List.mem_cons_self _ _))]

end World

open World

/-- **A step of either job saves what it read, blindly**: whatever other
writers committed after the run read a record – a delete, a status change –
when the condition held on the record as read and its users still exist, the
step leaves the job's version of it in the row. -/
theorem recoveryJobs_write_snapshot (env : JobEnv) (w : World) (mid : List Event)
    {now : NaiveDateTime} {emer : EmergencyAccess} {rest : List EmergencyAccess}
    (hmid : ∀ ev ∈ mid, ev.isWriter = true) (hpc : w.pc = .running now (emer :: rest)) :
    (recoveryTimedOut emer now = .ok true →
      (run (timedOutStep env) env.backend w mid).st.db.referencesExist (approve emer) = true →
      ((run (timedOutStep env) env.backend w mid).apply (timedOutStep env) env.backend
        .jobStep).st.db.find emer.uuid = some { approve emer with updatedAt := now }) ∧
    (reminderDue emer now = .ok true →
      (run (reminderStep env) env.backend w mid).st.db.referencesExist emer = true →
      ((run (reminderStep env) env.backend w mid).apply (reminderStep env) env.backend
        .jobStep).st.db.find emer.uuid = some { emer with updatedAt := now }) := by
  refine ⟨fun hdue href => ?_, fun hdue href => ?_⟩
  · rw [apply_jobStep_st ((run_pc_of_isWriter hmid).trans hpc)]
    exact recordStep_find_of_referencesExist hdue href
  · rw [apply_jobStep_st ((run_pc_of_isWriter hmid).trans hpc)]
    exact recordStep_find_of_referencesExist hdue href

/-- The run of `twoRecoveries` not yet started. -/
def racingWorld : World := ⟨twoRecoveries, .idle⟩

/-- `e1` after its grantor rejected the recovery: back to `Confirmed`. -/
def e1Rejected : EmergencyAccess := { e1 with status := EmergencyAccessStatus.Confirmed.toI32 }

/-- The run of `racingWorld` at `jan10`, having read both recoveries, with a
delete of `e1` committed after the read. -/
theorem recoveryJobs_write_snapshot_e1 :
    (∀ ev ∈ [Event.delete e1 jan10], ev.isWriter = true) ∧
      (racingWorld.apply (timedOutStep mailUp) mailUp.backend (.jobRead jan10)).pc =
        .running jan10 [e1, sampleRecovery "e2" sevenDays] ∧
      ((recoveryTimedOut e1 jan10 = .ok true →
        (run (timedOutStep mailUp) mailUp.backend
          (racingWorld.apply (timedOutStep mailUp) mailUp.backend (.jobRead jan10))
          [.delete e1 jan10]).st.db.referencesExist (approve e1) = true →
        ((run (timedOutStep mailUp) mailUp.backend
          (racingWorld.apply (timedOutStep mailUp) mailUp.backend (.jobRead jan10))
          [.delete e1 jan10]).apply (timedOutStep mailUp) mailUp.backend .jobStep).st.db.find e1.uuid =
            some { approve e1 with updatedAt := jan10 }) ∧
      (reminderDue e1 jan10 = .ok true →
        (run (reminderStep mailUp) mailUp.backend
          (racingWorld.apply (timedOutStep mailUp) mailUp.backend (.jobRead jan10))
          [.delete e1 jan10]).st.db.referencesExist e1 = true →
        ((run (reminderStep mailUp) mailUp.backend
          (racingWorld.apply (timedOutStep mailUp) mailUp.backend (.jobRead jan10))
          [.delete e1 jan10]).apply (reminderStep mailUp) mailUp.backend .jobStep).st.db.find e1.uuid =
            some { e1 with updatedAt := jan10 })) :=
  ⟨by decide, rfl, recoveryJobs_write_snapshot mailUp _ [.delete e1 jan10] (by decide) rfl⟩

/-- **Both jobs undo writes committed after their read**: a recovery deleted
after the timed-out job read it is re-created, approved; one the grantor
rejected in that window ends approved all the same; and the reminder job
writes the rejected record back in `RecoveryInitiated`. -/
theorem recoveryJobs_overwrite_concurrent_writes :
    (run (timedOutStep mailUp) mailUp.backend racingWorld
        [.jobRead jan10, .delete e1 jan10]).st.db.find "e1" = none ∧
      (run (timedOutStep mailUp) mailUp.backend racingWorld
        [.jobRead jan10, .delete e1 jan10, .jobStep]).st.db.find "e1" =
        some { approve e1 with updatedAt := jan10 } ∧
      (run (timedOutStep mailUp) mailUp.backend racingWorld
        [.jobRead jan10, .save e1Rejected jan10]).st.db.find "e1" =
        some { e1Rejected with updatedAt := jan10 } ∧
      (run (timedOutStep mailUp) mailUp.backend racingWorld
        [.jobRead jan10, .save e1Rejected jan10, .jobStep]).st.db.find "e1" =
        some { approve e1 with updatedAt := jan10 } ∧
      (run (reminderStep mailUp) mailUp.backend racingWorld
        [.jobRead jan10, .save e1Rejected jan10, .jobStep]).st.db.find "e1" =
        some { e1 with updatedAt := jan10 } :=
  ⟨rfl, rfl, rfl, rfl, rfl⟩

end BitwardenRs
