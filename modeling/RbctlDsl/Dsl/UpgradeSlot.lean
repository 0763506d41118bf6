import RbctlDsl.Dsl.FirmwareIpc
import RbctlDsl.Dsl.UpgradeJobs

/-!
# The upgrade slot

What the upgrade status is for, apart from threads and programs: clients that find the slot
open may put a job in the queue, and the worker shuts the slot while it runs a job.  The slot
is shut only when the job begins, so what keeps two clients apart before that is not the slot.
-/

namespace RbctlDsl.Dsl

/-- What the worker has in hand. -/
def JobPhase.inHand : JobPhase → List Nat
  | .free => []
  | .dequeued client | .running client => [client]

@[ext] structure UpgradeSlot where
  isOpen : Bool
  queued : List Nat
  job : JobPhase
  client : Nat → ClientPhase

namespace UpgradeSlot

/-- The jobs that are queued or in hand. -/
def jobs (slot : UpgradeSlot) : List Nat := slot.queued ++ slot.job.inHand

/-- A client that has passed its check, up to the start of its job. -/
def Waiting (slot : UpgradeSlot) (client : Nat) : Prop :=
  slot.client client = .checked ∨ slot.client client = .accepted ∨ client ∈ slot.queued ∨
    slot.job = .dequeued client

/-- A client that was answered `OK` and whose job has not ended. -/
def Unfinished (slot : UpgradeSlot) (client : Nat) : Prop :=
  slot.client client = .accepted ∨ client ∈ slot.jobs

/-- At most one accepted job is under way. -/
structure Exclusive (slot : UpgradeSlot) : Prop where
  one : ∀ client other, slot.Unfinished client → slot.Unfinished other → client = other
  once : slot.jobs.length ≤ 1

/-- A client moves on. -/
def setClient (slot : UpgradeSlot) (client : Nat) (phase : ClientPhase) : UpgradeSlot :=
  { slot with client := Function.update slot.client client phase }

@[simp] theorem client_setClient_self (slot : UpgradeSlot) (client : Nat) (phase : ClientPhase) :
    (slot.setClient client phase).client client = phase := Function.update_self ..

theorem client_setClient_of_ne (slot : UpgradeSlot) {client other : Nat} (phase : ClientPhase)
    (ne : other ≠ client) : (slot.setClient client phase).client other = slot.client other :=
  Function.update_of_ne ne ..

theorem setClient_eq_self {slot : UpgradeSlot} {client : Nat} {phase : ClientPhase}
    (here : slot.client client = phase) : slot.setClient client phase = slot := by
  rw [setClient, ← here, Function.update_eq_self]

/-- A client sends its job. -/
def enqueue (slot : UpgradeSlot) (client : Nat) : UpgradeSlot :=
  { slot.setClient client .sent with queued := slot.queued ++ [client] }

/-- The steps of the slot, where a client that passes its check is the only one that waits. -/
inductive Step (slot : UpgradeSlot) : UpgradeSlot → Prop
  | check (client : Nat) (isOpen : slot.isOpen = true)
      (alone : ∀ other, other ≠ client → ¬ slot.Waiting other)
      (fresh : slot.client client = .fresh) : Step slot (slot.setClient client .checked)
  | accept (client : Nat) (checked : slot.client client = .checked) :
      Step slot (slot.setClient client .accepted)
  | leave (client : Nat) (early : slot.client client ≠ .sent) :
      Step slot (slot.setClient client .dropped)
  | send (client : Nat) (accepted : slot.client client = .accepted) :
      Step slot (slot.enqueue client)
  | take (client : Nat) (rest : List Nat) (first : slot.queued = client :: rest)
      (free : slot.job = .free) :
      Step slot { slot with queued := rest, job := .dequeued client }
  | start (client : Nat) (dequeued : slot.job = .dequeued client) :
      Step slot { slot with isOpen := false, job := .running client }
  | run (client : Nat) (running : slot.job = .running client) :
      Step slot { slot with isOpen := false }
  | finish (client : Nat) (running : slot.job = .running client) :
      Step slot { slot with isOpen := true, job := .free }
  | idle : Step slot slot

/-- A client that waits or whose job runs. -/
def Pending (slot : UpgradeSlot) (client : Nat) : Prop :=
  slot.Waiting client ∨ slot.job = .running client

/-- The slot is shut while a job runs, every job is one that a client has sent, none is there
twice, and no two clients are pending. -/
structure Inv (slot : UpgradeSlot) : Prop where
  shut : ∀ client, slot.job = .running client → slot.isOpen = false
  sent : ∀ client ∈ slot.jobs, slot.client client = .sent
  nodup : slot.jobs.Nodup
  one : ∀ client other, slot.Pending client → slot.Pending other → client = other

section Inv

variable {slot slot' : UpgradeSlot} {client other : Nat}

theorem mem_jobs_iff : client ∈ slot.jobs ↔
    client ∈ slot.queued ∨ slot.job = .dequeued client ∨ slot.job = .running client := by
  rw [jobs, List.mem_append]
  cases slot.job with
  | free => simp [JobPhase.inHand]
  | dequeued taken => simp [JobPhase.inHand, eq_comm]
  | running taken => simp [JobPhase.inHand, eq_comm]

theorem Unfinished.pending (unfinished : slot.Unfinished client) : slot.Pending client := by
  rcases unfinished with accepted | member
  · exact .inl (.inr (.inl accepted))
  · rcases mem_jobs_iff.mp member with queued | dequeued | running
    · exact .inl (.inr (.inr (.inl queued)))
    · exact .inl (.inr (.inr (.inr dequeued)))
    · exact .inr running

/-- The invariant is enough for what the slot is for. -/
theorem Inv.exclusive (inv : slot.Inv) : slot.Exclusive := by
  refine ⟨fun client other first second => inv.one client other first.pending second.pending, ?_⟩
  have same : ∀ client ∈ slot.jobs, ∀ other ∈ slot.jobs, client = other := fun client member other
    otherMember => inv.one client other (Unfinished.pending (.inr member))
      (Unfinished.pending (.inr otherMember))
  match jobs : slot.jobs with
  | [] | [_] => simp
  | first :: second :: rest =>
      have nodup := inv.nodup
      rw [jobs] at same nodup
      have equal := same first (by simp) second (by simp)
      subst equal
      simp at nodup

theorem waiting_setClient {phase : ClientPhase}
    (waiting : (slot.setClient client phase).Waiting other) (ne : other ≠ client) :
    slot.Waiting other := by
  rw [Waiting, client_setClient_of_ne _ _ ne] at waiting
  exact waiting

/-- A step after which no new client is pending, and the jobs are among the old ones. -/
theorem Inv.shrink (inv : slot.Inv)
    (shut : ∀ client, slot'.job = .running client → slot'.isOpen = false)
    (sent : ∀ client ∈ slot'.jobs, slot'.client client = .sent) (nodup : slot'.jobs.Nodup)
    (fewer : ∀ client, slot'.Pending client → slot.Pending client) : slot'.Inv :=
  ⟨shut, sent, nodup, fun client other first second =>
    inv.one client other (fewer client first) (fewer other second)⟩

/-- A client that has not sent its job has none. -/
theorem Inv.not_mem_jobs (inv : slot.Inv) (early : slot.client client ≠ .sent) :
    client ∉ slot.jobs := fun member => early (inv.sent client member)

theorem Inv.sent_setClient (inv : slot.Inv) {phase : ClientPhase}
    (early : slot.client client ≠ .sent) :
    ∀ other ∈ (slot.setClient client phase).jobs,
      (slot.setClient client phase).client other = .sent := by
  intro other member
  have ne : other ≠ client := by
    rintro rfl
    exact inv.not_mem_jobs early member
  rw [client_setClient_of_ne _ _ ne]
  exact inv.sent other member

theorem Inv.check (inv : slot.Inv) (isOpen : slot.isOpen = true)
    (alone : ∀ other, other ≠ client → ¬ slot.Waiting other)
    (fresh : slot.client client = .fresh) : (slot.setClient client .checked).Inv := by
  have early : slot.client client ≠ .sent := by
    rw [fresh]
    decide
  have only : ∀ other, (slot.setClient client .checked).Pending other → other = client := by
    intro other pending
    by_contra ne
    cases pending with
    | inl waiting => exact alone other ne (waiting_setClient waiting ne)
    | inr running =>
        have shut := inv.shut other running
        rw [isOpen] at shut
        cases shut
  exact ⟨inv.shut, inv.sent_setClient early, inv.nodup, fun first second isFirst isSecond =>
    (only first isFirst).trans (only second isSecond).symm⟩

theorem Inv.accept (inv : slot.Inv) (checked : slot.client client = .checked) :
    (slot.setClient client .accepted).Inv := by
  have early : slot.client client ≠ .sent := by
    rw [checked]
    decide
  refine inv.shrink inv.shut (inv.sent_setClient early) inv.nodup fun other pending => ?_
  by_cases same : other = client
  · subst same
    exact .inl (.inl checked)
  · exact pending.imp_left fun waiting => waiting_setClient waiting same

theorem Inv.leave (inv : slot.Inv) (early : slot.client client ≠ .sent) :
    (slot.setClient client .dropped).Inv := by
  refine inv.shrink inv.shut (inv.sent_setClient early) inv.nodup fun other pending => ?_
  by_cases same : other = client
  · subst same
    rcases pending with (checked | accepted | waiting) | running
    · rw [client_setClient_self] at checked
      cases checked
    · rw [client_setClient_self] at accepted
      cases accepted
    · exact .inl (.inr (.inr waiting))
    · exact .inr running
  · exact pending.imp_left fun waiting => waiting_setClient waiting same

theorem Inv.send (inv : slot.Inv) (accepted : slot.client client = .accepted) :
    (slot.enqueue client).Inv := by
  have early : slot.client client ≠ .sent := by
    rw [accepted]
    decide
  have perm : (slot.enqueue client).jobs.Perm (client :: slot.jobs) := by
    rw [jobs, jobs, enqueue, List.append_assoc]
    exact List.perm_middle
  refine inv.shrink inv.shut (fun other member => ?_) ?_ fun other pending => ?_
  · change (slot.setClient client .sent).client other = .sent
    by_cases same : other = client
    · rw [same, client_setClient_self]
    · rw [client_setClient_of_ne _ _ same]
      exact inv.sent other (List.mem_of_ne_of_mem same (perm.mem_iff.mp member))
  · exact perm.nodup_iff.mpr (List.nodup_cons.mpr ⟨inv.not_mem_jobs early, inv.nodup⟩)
  · by_cases same : other = client
    · subst same
      exact .inl (.inr (.inl accepted))
    · refine pending.imp_left fun waiting => ?_
      have later : (slot.setClient client .sent).client other = slot.client other :=
        client_setClient_of_ne _ _ same
      rcases waiting with checked | wasAccepted | queued | dequeued
      · exact .inl (later.symm.trans checked)
      · exact .inr (.inl (later.symm.trans wasAccepted))
      · exact .inr (.inr (.inl ((List.mem_append.mp queued).resolve_right fun last =>
          same (List.mem_singleton.mp last))))
      · exact .inr (.inr (.inr dequeued))

theorem Inv.take (inv : slot.Inv) {rest : List Nat} (first : slot.queued = client :: rest)
    (free : slot.job = .free) :
    ({ slot with queued := rest, job := .dequeued client } : UpgradeSlot).Inv := by
  have perm : (rest ++ [client]).Perm slot.jobs := by
    rw [jobs, first, free, JobPhase.inHand, List.append_nil]
    exact List.perm_append_singleton client rest
  refine inv.shrink (fun _ running => by cases running) (fun other member => ?_) ?_ ?_
  · exact inv.sent other (perm.mem_iff.mp member)
  · exact perm.nodup_iff.mpr inv.nodup
  · intro other pending
    rcases pending with (checked | accepted | queued | dequeued) | running
    · exact .inl (.inl checked)
    · exact .inl (.inr (.inl accepted))
    · exact .inl (.inr (.inr (.inl (first ▸ List.mem_cons_of_mem _ queued))))
    · cases dequeued
      exact .inl (.inr (.inr (.inl (first ▸ List.mem_cons_self ..))))
    · cases running

theorem Inv.start (inv : slot.Inv) (dequeued : slot.job = .dequeued client) :
    ({ slot with isOpen := false, job := .running client } : UpgradeSlot).Inv := by
  have same : slot.queued ++ JobPhase.inHand (.running client) = slot.jobs := by
    rw [jobs, dequeued, JobPhase.inHand, JobPhase.inHand]
  refine inv.shrink (fun _ _ => rfl) (fun other member => ?_) ?_ ?_
  · exact inv.sent other (same ▸ member)
  · exact (congrArg List.Nodup same).mpr inv.nodup
  · intro other pending
    rcases pending with (checked | accepted | queued | taken) | running
    · exact .inl (.inl checked)
    · exact .inl (.inr (.inl accepted))
    · exact .inl (.inr (.inr (.inl queued)))
    · cases taken
    · cases running
      exact .inl (.inr (.inr (.inr dequeued)))

theorem Inv.finish (inv : slot.Inv) :
    ({ slot with isOpen := true, job := .free } : UpgradeSlot).Inv := by
  have sublist : (slot.queued ++ []).Sublist slot.jobs :=
    List.Sublist.append_left (List.nil_sublist _) _
  refine inv.shrink (fun _ running => by cases running) (fun other member => ?_) ?_ ?_
  · exact inv.sent other (sublist.mem member)
  · exact sublist.nodup inv.nodup
  · intro other pending
    rcases pending with (checked | accepted | queued | dequeued) | running
    · exact .inl (.inl checked)
    · exact .inl (.inr (.inl accepted))
    · exact .inl (.inr (.inr (.inl queued)))
    · cases dequeued
    · cases running

/-- Every step keeps the invariant. -/
theorem Inv.step (inv : slot.Inv) (step : slot.Step slot') : slot'.Inv := by
  cases step with
  | check client isOpen alone fresh => exact inv.check isOpen alone fresh
  | accept client checked => exact inv.accept checked
  | leave client early => exact inv.leave early
  | send client accepted => exact inv.send accepted
  | take client rest first free => exact inv.take first free
  | start client dequeued => exact inv.start dequeued
  | run client running => exact ⟨fun _ _ => rfl, inv.sent, inv.nodup, inv.one⟩
  | finish client running => exact inv.finish
  | idle => exact inv

end Inv

end UpgradeSlot

end RbctlDsl.Dsl
