import Mathlib.Data.Nat.Find
import Mathlib.Data.List.Count

/-!
# Deleting an attachment

`Attachment::delete` deletes the attachment's row and then its file. The
`DELETE` may fail for a while – SQLite refuses writers while the database is
locked – so it is tried again, half a second apart: the counter `retries`
starts at 10, each failure with the counter at 1 or more takes one off it and
retries, and a failure with the counter below 1 returns that error. The file is
deleted only once a `DELETE` has gone through.

The database is not modelled here: the `n`-th `DELETE` answers `outcomes n`,
and every statement is over every sequence of answers. What `delete` does is
recorded as the list of its actions – each `DELETE`, each sleep, the deletion
of the file – with its result. Its progress messages are left out.

The loop is written as the code has it, with the counter an integer and the
test `retries < 1`; `deleteLoop_of_ok` and `deleteLoop_of_error` say what it
computes, and `delete_retries` what that means for `delete`: at most eleven
`DELETE`s, an error exactly when all eleven fail – with no file deleted – and
otherwise one deletion of the file, after the first `DELETE` that went through.

`delete_all_by_cipher` deletes the attachments `find_by_cipher` returns, one
after another, and gives up at the first `delete` that returns an error (its
`?`). It touches the rows and files of that cipher's attachments only, and
either deletes them all or stops at the first it could not delete, leaving
those after it in place (`deleteAllByCipher_stops_at_first_failure`).
-/

namespace BitwardenRs

/-- A row of `attachments`, with the columns `delete` reads. -/
structure Attachment where
  id : String
  cipherUuid : String
  deriving DecidableEq

namespace Attachment

/-- `get_file_path`: `{attachments_folder}/{cipher_uuid}/{id}`. -/
def getFilePath (self : Attachment) (attachmentsFolder : String) : String :=
  attachmentsFolder ++ "/" ++ self.cipherUuid ++ "/" ++ self.id

/-- What `delete` does, in order. -/
inductive Action
  /-- `diesel::delete(attachments::table.filter(attachments::id.eq(..))).execute(..)`. -/
  | deleteRow (id : String)
  /-- `thread::sleep(time::Duration::from_millis(..))`. -/
  | sleep (millis : Nat)
  /-- `util::delete_file(..)`. -/
  | deleteFile (path : String)
  deriving DecidableEq

variable {ε : Type}

/-- **The retry loop of `delete`**, from the `n`-th `DELETE` with the counter
at `retries`: its actions, and the error it returns, or `none` at its
`break`. -/
def deleteLoop (id : String) (outcomes : Nat → Except ε Nat) (n : Nat) (retries : Int) :
    List Action × Option ε :=
  match outcomes n with
  | .ok _ => ([.deleteRow id], none)
  | .error err =>
    if retries < 1 then ([.deleteRow id], some err)
    else
      let (actions, result) := deleteLoop id outcomes (n + 1) (retries - 1)
      (.deleteRow id :: .sleep 500 :: actions, result)
termination_by retries.toNat
decreasing_by omega

/-- **`Attachment::delete`**: the loop from a counter of 10, then the file. -/
def delete (self : Attachment) (attachmentsFolder : String) (outcomes : Nat → Except ε Nat) :
    List Action × Except ε Unit :=
  match deleteLoop self.id outcomes 0 10 with
  | (actions, some err) => (actions, .error err)
  | (actions, none) => (actions ++ [.deleteFile (self.getFilePath attachmentsFolder)], .ok ())

/-- The actions of `k` failed `DELETE`s, each followed by its sleep. -/
def failedAttempts (id : String) : Nat → List Action
  | 0 => []
  | k + 1 => .deleteRow id :: .sleep 500 :: failedAttempts id k

@[simp] theorem count_deleteRow_failedAttempts (id : String) (k : Nat) :
    (failedAttempts id k).count (.deleteRow id) = k := by
  induction k with
  | zero => rfl
  | succ k ih => simp [failedAttempts, ih]

theorem deleteFile_not_mem_failedAttempts (id path : String) (k : Nat) :
    Action.deleteFile path ∉ failedAttempts id k := by
  induction k with
  | zero => simp [failedAttempts]
  | succ k ih => simp [failedAttempts, ih]

/-- A `DELETE` that goes through ends the loop. -/
theorem deleteLoop_of_isOk {id : String} {outcomes : Nat → Except ε Nat} {n : Nat} {retries : Int}
    (h : (outcomes n).isOk = true) : deleteLoop id outcomes n retries = ([.deleteRow id], none) := by
  rcases ho : outcomes n with err | rows
  · rw [ho] at h; cases h
  · rw [deleteLoop, ho]

/-- A failed `DELETE` with the counter at `m + 1` sleeps and retries with the
counter at `m`. -/
theorem deleteLoop_of_error_succ {id : String} {outcomes : Nat → Except ε Nat} {n m : Nat}
    {err : ε} (h : outcomes n = .error err) :
    deleteLoop id outcomes n (m + 1 : Nat) =
      (.deleteRow id :: .sleep 500 :: (deleteLoop id outcomes (n + 1) m).1,
        (deleteLoop id outcomes (n + 1) m).2) := by
  rw [deleteLoop, h]
  simp only [show ¬((m + 1 : Nat) : Int) < 1 by omega, if_false,
    show ((m + 1 : Nat) : Int) - 1 = m by omega]

theorem eq_error_of_isOk_eq_false {x : Except ε Nat} (h : x.isOk = false) : ∃ err, x = .error err := by
  rcases x with err | rows
  · exact ⟨err, rfl⟩
  · cases h

/-- **The loop stops at the first `DELETE` that goes through**, when that is
within the counter's reach: `k` failures with their sleeps, then that
`DELETE`. -/
theorem deleteLoop_of_ok {id : String} {outcomes : Nat → Except ε Nat} (m n k : Nat) (hk : k ≤ m)
    (hok : (outcomes (n + k)).isOk = true) (hfail : ∀ i < k, (outcomes (n + i)).isOk = false) :
    deleteLoop id outcomes n m = (failedAttempts id k ++ [.deleteRow id], none) := by
  induction k generalizing m n with
  | zero => exact deleteLoop_of_isOk hok
  | succ k ih =>
    obtain ⟨m, rfl⟩ : ∃ m', m = m' + 1 := ⟨m - 1, by omega⟩
    obtain ⟨err, ho⟩ := eq_error_of_isOk_eq_false (Nat.add_zero n ▸ hfail 0 (Nat.succ_pos k))
    rw [deleteLoop_of_error_succ ho, ih m (n + 1) (by omega)
      (by rwa [show n + 1 + k = n + (k + 1) by omega])
      fun i hi => by rw [show n + 1 + i = n + (i + 1) by omega]; exact hfail (i + 1) (by omega)]
    rfl

/-- **The loop gives up after `m + 1` failures** from a counter of `m`:
`m` failures with their sleeps, the last `DELETE`, and its error. -/
theorem deleteLoop_of_error {id : String} {outcomes : Nat → Except ε Nat} (m n : Nat)
    (hfail : ∀ i ≤ m, (outcomes (n + i)).isOk = false) :
    ∃ err, outcomes (n + m) = .error err ∧
      deleteLoop id outcomes n m = (failedAttempts id m ++ [.deleteRow id], some err) := by
  induction m generalizing n with
  | zero =>
    obtain ⟨err, ho⟩ := eq_error_of_isOk_eq_false (hfail 0 le_rfl)
    refine ⟨err, ho, ?_⟩
    rw [Nat.add_zero] at ho
    rw [deleteLoop, ho]
    simp [failedAttempts]
  | succ m ih =>
    obtain ⟨err, ho⟩ := eq_error_of_isOk_eq_false (Nat.add_zero n ▸ hfail 0 (Nat.zero_le _))
    obtain ⟨err', hlast, hloop⟩ := ih (n + 1) fun i hi => by
      rw [show n + 1 + i = n + (i + 1) by omega]; exact hfail (i + 1) (by omega)
    refine ⟨err', by rwa [show n + (m + 1) = n + 1 + m by omega], ?_⟩
    rw [deleteLoop_of_error_succ ho, hloop]
    rfl

/-- **`delete` retries at most ten times**: it makes at most eleven
`DELETE`s; it returns an error exactly when the first eleven all fail, and
then deletes no file; otherwise it returns `Ok` after `k` failed `DELETE`s
and the one that went through, followed by one deletion of the file. -/
theorem delete_retries (self : Attachment) (attachmentsFolder : String)
    (outcomes : Nat → Except ε Nat) :
    (self.delete attachmentsFolder outcomes).1.count (.deleteRow self.id) ≤ 11 ∧
    ((self.delete attachmentsFolder outcomes).2.isOk = false ↔
      ∀ i < 11, (outcomes i).isOk = false) ∧
    ((self.delete attachmentsFolder outcomes).2.isOk = false →
      ∀ path, Action.deleteFile path ∉ (self.delete attachmentsFolder outcomes).1) ∧
    ((self.delete attachmentsFolder outcomes).2.isOk = true →
      ∃ k < 11, (outcomes k).isOk = true ∧ (∀ i < k, (outcomes i).isOk = false) ∧
        (self.delete attachmentsFolder outcomes).1 =
          failedAttempts self.id k ++
            [.deleteRow self.id, .deleteFile (self.getFilePath attachmentsFolder)]) := by
  by_cases hall : ∀ i < 11, (outcomes i).isOk = false
  · obtain ⟨err, -, hloop⟩ := @deleteLoop_of_error ε self.id outcomes 10 0
      fun i hi => by rw [Nat.zero_add]; exact hall i (by omega)
    have hdel : self.delete attachmentsFolder outcomes =
        (failedAttempts self.id 10 ++ [.deleteRow self.id], .error err) := by
      rw [delete, show ((10 : Int)) = ((10 : Nat) : Int) from rfl, hloop]
    rw [hdel]
    refine ⟨by simp, iff_of_true rfl hall, fun _ path => ?_, fun h => by cases h⟩
    simpa using deleteFile_not_mem_failedAttempts self.id path 10
  · have hex : ∃ k, k < 11 ∧ (outcomes k).isOk = true := by
      by_contra hno
      exact hall fun i hi => Bool.eq_false_iff.2 fun h => hno ⟨i, hi, h⟩
    obtain ⟨hk, hok⟩ := Nat.find_spec hex
    have hfirst : ∀ i < Nat.find hex, (outcomes i).isOk = false := fun i hi =>
      Bool.eq_false_iff.2 fun h => Nat.find_min hex hi ⟨by omega, h⟩
    have hloop := @deleteLoop_of_ok ε self.id outcomes 10 0 (Nat.find hex) (by omega)
      (by rwa [Nat.zero_add]) fun i hi => by rw [Nat.zero_add]; exact hfirst i hi
    have hdel : self.delete attachmentsFolder outcomes =
        (failedAttempts self.id (Nat.find hex) ++
          [.deleteRow self.id, .deleteFile (self.getFilePath attachmentsFolder)], .ok ()) := by
      rw [delete, show ((10 : Int)) = ((10 : Nat) : Int) from rfl, hloop]
      simp
    rw [hdel]
    refine ⟨?_, iff_of_false (fun h => by cases h) hall, (fun h => by cases h),
      fun _ => ⟨Nat.find hex, hk, hok, hfirst, rfl⟩⟩
    have hlast : ([.deleteRow self.id, .deleteFile (self.getFilePath attachmentsFolder)] :
        List Action).count (.deleteRow self.id) = 1 := by simp
    rw [List.count_append, count_deleteRow_failedAttempts, hlast]
    omega

/-! ## `delete_all_by_cipher` -/

/-- `find_by_cipher`: the rows of one cipher, in the order the table returns
them. -/
def findByCipher (attachments : List Attachment) (cipherUuid : String) : List Attachment :=
  attachments.filter (·.cipherUuid == cipherUuid)

/-- The loop of `delete_all_by_cipher`: `delete` each attachment, and return
the first error (`?`). The `DELETE`s of attachment `a` answer `outcomes a`. -/
def deleteEach (attachmentsFolder : String) (outcomes : Attachment → Nat → Except ε Nat) :
    List Attachment → List Action × Except ε Unit
  | [] => ([], .ok ())
  | a :: rest =>
    match a.delete attachmentsFolder (outcomes a) with
    | (actions, .error err) => (actions, .error err)
    | (actions, .ok ()) =>
      let (more, result) := deleteEach attachmentsFolder outcomes rest
      (actions ++ more, result)

/-- **`delete_all_by_cipher`**. -/
def deleteAllByCipher (attachments : List Attachment) (cipherUuid attachmentsFolder : String)
    (outcomes : Attachment → Nat → Except ε Nat) : List Action × Except ε Unit :=
  deleteEach attachmentsFolder outcomes (findByCipher attachments cipherUuid)

/-- The actions of deleting each attachment of a list, one after another. -/
def actionsOf (attachmentsFolder : String) (outcomes : Attachment → Nat → Except ε Nat)
    (l : List Attachment) : List Action :=
  (l.map fun a => (a.delete attachmentsFolder (outcomes a)).1).flatten

/-- **The loop stops at the first attachment it cannot delete**: either every
`delete` goes through, and the loop does them all; or the loop does those
before the first `delete` that fails, then that one, returns its error, and
does nothing for the attachments after it. -/
theorem deleteEach_eq (attachmentsFolder : String) (outcomes : Attachment → Nat → Except ε Nat)
    (l : List Attachment) :
    ((∀ a ∈ l, (a.delete attachmentsFolder (outcomes a)).2.isOk = true) ∧
        deleteEach attachmentsFolder outcomes l = (actionsOf attachmentsFolder outcomes l, .ok ())) ∨
      ∃ pre a post, l = pre ++ a :: post ∧
        (∀ b ∈ pre, (b.delete attachmentsFolder (outcomes b)).2.isOk = true) ∧
        (a.delete attachmentsFolder (outcomes a)).2.isOk = false ∧
        deleteEach attachmentsFolder outcomes l =
          (actionsOf attachmentsFolder outcomes (pre ++ [a]), (a.delete attachmentsFolder (outcomes a)).2) := by
  induction l with
  | nil => exact .inl ⟨by simp, rfl⟩
  | cons a rest ih =>
    rcases hd : a.delete attachmentsFolder (outcomes a) with ⟨actions, _ | _⟩
    · refine .inr ⟨[], a, rest, rfl, by simp, by rw [hd]; rfl, ?_⟩
      simp [deleteEach, actionsOf, hd]
    · rcases ih with ⟨hall, heq⟩ | ⟨pre, b, post, rfl, hpre, hb, heq⟩
      · refine .inl ⟨?_, by simp [deleteEach, actionsOf, hd, heq]⟩
        simp only [List.mem_cons, forall_eq_or_imp, hd]
        exact ⟨rfl, hall⟩
      · refine .inr ⟨a :: pre, b, post, rfl, ?_, hb, by simp [deleteEach, actionsOf, hd, heq]⟩
        simp only [List.mem_cons, forall_eq_or_imp, hd]
        exact ⟨rfl, hpre⟩

/-- Every action of `delete` concerns its own attachment: its row, a sleep
between retries, or its file. -/
theorem mem_deleteLoop {id : String} {outcomes : Nat → Except ε Nat} (n : Nat) (retries : Int)
    {x : Action} (hx : x ∈ (deleteLoop id outcomes n retries).1) :
    x = .deleteRow id ∨ x = .sleep 500 := by
  induction n, retries using deleteLoop.induct id outcomes with
  | case1 n retries rows ho =>
    rw [deleteLoop, ho] at hx
    exact .inl (List.mem_singleton.1 hx)
  | case2 n retries err ho hr =>
    rw [deleteLoop, ho] at hx
    simp only [if_pos hr, List.mem_singleton] at hx
    exact .inl hx
  | case3 n retries err ho hr actions result hrest ih =>
    rw [deleteLoop, ho] at hx
    simp only [if_neg hr, hrest, List.mem_cons] at hx
    rw [hrest] at ih
    rcases hx with rfl | rfl | hx
    exacts [.inl rfl, .inr rfl, ih hx]

theorem mem_delete {self : Attachment} {attachmentsFolder : String} {outcomes : Nat → Except ε Nat}
    {x : Action} (hx : x ∈ (self.delete attachmentsFolder outcomes).1) :
    x = .deleteRow self.id ∨ x = .sleep 500 ∨ x = .deleteFile (self.getFilePath attachmentsFolder) := by
  unfold delete at hx
  rcases hl : deleteLoop self.id outcomes 0 10 with ⟨actions, _ | err⟩ <;>
    simp only [hl, List.mem_append, List.mem_singleton] at hx
  · rcases hx with hx | rfl
    · exact (mem_deleteLoop 0 10 (by rw [hl]; exact hx)).imp_right .inl
    · exact .inr (.inr rfl)
  · exact (mem_deleteLoop 0 10 (by rw [hl]; exact hx)).imp_right .inl

theorem mem_deleteEach {attachmentsFolder : String} {outcomes : Attachment → Nat → Except ε Nat}
    {l : List Attachment} {x : Action} (hx : x ∈ (deleteEach attachmentsFolder outcomes l).1) :
    ∃ a ∈ l, x = .deleteRow a.id ∨ x = .sleep 500 ∨ x = .deleteFile (a.getFilePath attachmentsFolder) := by
  induction l with
  | nil => cases hx
  | cons a rest ih =>
    rcases hd : a.delete attachmentsFolder (outcomes a) with ⟨actions, _ | _⟩ <;>
      simp only [deleteEach, hd, List.mem_append] at hx
    · exact ⟨a, List.mem_cons_self _ _, mem_delete (by rw [hd]; exact hx)⟩
    · rcases hx with hx | hx
      · exact ⟨a, List.mem_cons_self _ _, mem_delete (by rw [hd]; exact hx)⟩
      · obtain ⟨b, hb, h⟩ := ih hx
        exact ⟨b, List.mem_cons_of_mem _ hb, h⟩

/-- **`delete_all_by_cipher` deletes the cipher's attachments one by one and
stops at the first it cannot delete.** It deletes no row and no file but
those of the cipher's attachments; and either every `delete` goes through and
it does them all, or it does those before the first failing `delete`, then
that one, and returns its error, leaving the attachments after it alone. -/
theorem deleteAllByCipher_stops_at_first_failure (attachments : List Attachment)
    (cipherUuid attachmentsFolder : String) (outcomes : Attachment → Nat → Except ε Nat) :
    (∀ x ∈ (deleteAllByCipher attachments cipherUuid attachmentsFolder outcomes).1,
      ∃ a ∈ attachments, a.cipherUuid = cipherUuid ∧
        (x = .deleteRow a.id ∨ x = .sleep 500 ∨ x = .deleteFile (a.getFilePath attachmentsFolder))) ∧
    (((∀ a ∈ findByCipher attachments cipherUuid, (a.delete attachmentsFolder (outcomes a)).2.isOk = true) ∧
        deleteAllByCipher attachments cipherUuid attachmentsFolder outcomes =
          (actionsOf attachmentsFolder outcomes (findByCipher attachments cipherUuid), .ok ())) ∨
      ∃ pre a post, findByCipher attachments cipherUuid = pre ++ a :: post ∧
        (∀ b ∈ pre, (b.delete attachmentsFolder (outcomes b)).2.isOk = true) ∧
        (a.delete attachmentsFolder (outcomes a)).2.isOk = false ∧
        deleteAllByCipher attachments cipherUuid attachmentsFolder outcomes =
          (actionsOf attachmentsFolder outcomes (pre ++ [a]), (a.delete attachmentsFolder (outcomes a)).2)) := by
  refine ⟨fun x hx => ?_, deleteEach_eq attachmentsFolder outcomes _⟩
  obtain ⟨a, ha, h⟩ := mem_deleteEach hx
  simp only [findByCipher, List.mem_filter, beq_iff_eq] at ha
  exact ⟨a, ha.1, ha.2, h⟩

end Attachment

end BitwardenRs
