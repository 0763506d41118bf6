import RbctlDsl.Dsl.HostLinks
import RbctlDsl.Dsl.UpgradeWindow

/-!
# The daemon on its host

What a whole run of the daemon leaves of the host's interfaces.  The operations that create and
delete an interface are those of the code, on the requests that the kernel answers.
-/

namespace RbctlDsl.Dsl

open RbctlDsl.Lib RbctlDsl.Proto HostLinks

namespace Daemon

/-- The host's interfaces below the main thread. -/
def hostWorld (refuses : RtnlOp → Prop) : World daemonCalls HostLinks
  | links, ⟨.ifaceExists name, present⟩, after => after = links ∧ present = (links name).isSome
  | links, ⟨.createVlan parent vlanId, answer⟩, after =>
    Takes (Kernel refuses) (createVlanIface parent vlanId ()) links (answer, ()) after
  | links, ⟨.deleteVlan parent vlanId, answer⟩, after =>
    Takes (Kernel refuses) (deleteVlanIface parent vlanId ()) links (.ok answer, ()) after
  | links, _, after => after = links

/-- An operation before the board is asked for anything. -/
def Aborts : DaemonOp → Prop
  | .loadUci | .ifaceExists _ | .openSocket _ => True
  | _ => False

/-- An operation that has nothing to do with the host's interfaces. -/
def SparesLinks : DaemonOp → Prop
  | .createVlan .. | .deleteVlan .. => False
  | _ => True

/-- The operations between two points of a run have nothing to do with the host's interfaces. -/
abbrev AllSpare (events : History daemonCalls) : Prop := ∀ event ∈ events, SparesLinks event.op

section Run

variable {refuses : RtnlOp → Prop} {links after : HostLinks} {fuel : Nat} {configIface : String}
  {notifyScript : Option String} {overrides : CliOverrides} {cfg : DslConfig} {board : Settings}

theorem same_of_sparesLinks {event : Event daemonCalls} (spares : SparesLinks event.op)
    (taken : hostWorld refuses links event after) : after = links := by
  obtain ⟨op, answer⟩ := event
  cases op with
  | createVlan | deleteVlan => cases spares
  | ifaceExists name => exact taken.1
  | _ => exact taken

theorem same_of_allSpare {events : History daemonCalls} (spares : AllSpare events)
    (evolves : Evolves (hostWorld refuses) links events after) : after = links :=
  evolves.keeps fun event member _ _ => same_of_sparesLinks (spares event member)

theorem ServeOp.sparesLinks {op : DaemonOp} (serves : ServeOp overrides cfg op) :
    SparesLinks op := by
  cases op with
  | createVlan | deleteVlan => cases serves
  | _ => trivial

theorem Aborts.sparesLinks {op : DaemonOp} (aborts : Aborts op) : SparesLinks op := by
  cases op with
  | createVlan | deleteVlan => cases aborts
  | _ => trivial

/-! ## The course of a run -/

/-- What a set-up has done: it has stopped before the board is asked for anything, or it has found
the management interface. -/
def AfterSetUp (configIface : String) (events : History daemonCalls) : Except Nat DslConfig → Prop
  | .error code => code = 1 ∧ ∀ event ∈ events, Aborts event.op
  | .ok _ => ⟨.ifaceExists configIface, true⟩ ∈ events ∧ AllSpare events

/-- What a run has done: it has stopped in the set-up, or it has created one interface, served,
and deleted that interface. -/
def AfterRun (configIface : String) (events : History daemonCalls) : Except Nat Nat → Prop
  | .error code => code = 1 ∧ ∀ event ∈ events, Aborts event.op
  | .ok code => code = 0 ∧ ∃ before vlan answer between,
    events = before ++ ⟨.createVlan (parentIface configIface) vlan, answer⟩ ::
      (between ++ [⟨.deleteVlan (parentIface configIface) vlan, ()⟩, ⟨.removeSocket, ()⟩]) ∧
    ⟨.ifaceExists configIface, true⟩ ∈ before ∧ AllSpare before ∧ AllSpare between

theorem safe_lineUp_course (history : History daemonCalls) :
    Safe (onlyOps fun _ => True)
      (fun later result => (∃ event, later = history ++ [event] ∧ SparesLinks event.op) ∧
        ∃ value, result.1 = .ok value)
      (callBoard cfg.lineUp board) history := by
  rw [DslConfig.lineUp, lineConfigUp, callBoard_exchange]
  exact ⟨trivial, fun _ _ => ⟨⟨_, rfl, trivial⟩, _, rfl⟩⟩

theorem safe_setUp_course (configIface : String) :
    Safe (onlyOps fun _ => True) (fun later result => AfterSetUp configIface later result.1)
      (setUp configIface overrides board) [] := by
  rw [setUp, Method.bind_apply, configure_apply]
  refine ⟨trivial, fun opened _ => ?_⟩
  dsimp only
  cases validateConfig (loadOrDefault opened overrides) with
  | error error => exact ⟨rfl, by simp [Aborts]⟩
  | ok passed =>
      refine ⟨trivial, fun present _ => ?_⟩
      cases present with
      | false => exact ⟨rfl, by simp [Aborts]⟩
      | true =>
          refine ⟨trivial, fun socket _ => ?_⟩
          cases socket with
          | error error => exact ⟨rfl, by simp [Aborts]⟩
          | ok socket =>
              refine Method.safe_bind (safe_lineUp_course _) ?_ ?_
              · rintro later _ after ⟨⟨event, rfl, spares⟩, _⟩
                exact ⟨by simp, by simpa [AllSpare, SparesLinks] using spares⟩
              · rintro later error after ⟨_, value, equal⟩
                cases equal

/-- The shutdown deletes the interface. -/
theorem safe_shutdown_course (parent : String) (vlan : UInt16) (history : History daemonCalls) :
    Safe (onlyOps fun _ => True)
      (fun later result => result.1 = .ok () ∧ ∃ between, AllSpare between ∧
        later = history ++ (between ++ [⟨.deleteVlan parent vlan, ()⟩, ⟨.removeSocket, ()⟩]))
      (shutdown notifyScript parent vlan board) history := by
  have tells : Keeps SparesLinks (fun _ => ())
      (notifying notifyScript fun script => .emitStatus script .down) :=
    keeps_notifying notifyScript fun _ => trivial
  have told := (tells board history).onlyAdds.and_ends (succeeds_notifying _ board history)
  refine Method.safe_bind told ?_ ?_
  · rintro later ⟨⟩ after ⟨⟨⟨telling, rfl, sparing⟩, _⟩, _⟩
    refine ⟨trivial, fun done _ => ⟨trivial, fun _ _ => ⟨trivial, fun _ _ => ⟨rfl, ?_⟩⟩⟩⟩
    refine ⟨telling ++ [⟨.waitWorker 3000, done⟩], ?_, by simp⟩
    simpa [AllSpare, or_imp, forall_and, SparesLinks] using sparing
  · rintro later error after ⟨_, value, equal⟩
    cases equal

theorem safe_finish_course (vlan : UInt16) (history : History daemonCalls) :
    Safe (onlyOps fun _ => True)
      (fun later result => result.1 = .ok 0 ∧ ∃ between, AllSpare between ∧
        later = history ++ (between ++
          [⟨.deleteVlan (parentIface configIface) vlan, ()⟩, ⟨.removeSocket, ()⟩]))
      (finish fuel configIface notifyScript overrides cfg vlan board) history := by
  have serves : Keeps SparesLinks (fun _ => ()) (serve fuel notifyScript overrides cfg) :=
    (keeps_serve fuel notifyScript overrides cfg).mono fun _ => ServeOp.sparesLinks
  have served := (serves board history).onlyAdds.and_ends (succeeds_serve fuel board history)
  refine Method.safe_bind served ?_ ?_
  · rintro later ⟨⟩ after ⟨⟨⟨serving, rfl, sparing⟩, _⟩, _⟩
    refine Method.safe_bind (safe_shutdown_course _ vlan _) ?_ ?_
    · rintro later ⟨⟩ after ⟨_, between, spare, rfl⟩
      refine ⟨rfl, serving ++ between, ?_, by simp⟩
      exact List.forall_mem_append.mpr ⟨sparing, spare⟩
    · rintro later error after ⟨failed, _⟩
      cases failed
  · rintro later error after ⟨_, value, equal⟩
    cases equal

/-- Every run takes this course. -/
theorem safe_run_course :
    Safe (onlyOps fun _ => True) (fun later result => AfterRun configIface later result.1)
      (run fuel configIface notifyScript overrides board) [] := by
  refine Method.safe_bind (safe_setUp_course configIface) ?_ fun _ _ _ failed => failed
  rintro before cfg after ⟨found, sparing⟩
  rw [operate_apply]
  refine ⟨trivial, fun reply _ => ⟨trivial, fun answer _ => ?_⟩⟩
  refine (safe_finish_course _ _).mono ?_
  rintro later ⟨result, board⟩ ⟨ended, between, spare, rfl⟩
  obtain rfl : result = .ok 0 := ended
  refine ⟨rfl, before ++ [linkAdd cfg after reply], vlanAfter cfg after reply, answer, between,
    ?_, List.mem_append_left _ found, ?_, spare⟩
  · simp [linkAdd]
  · exact List.forall_mem_append.mpr ⟨sparing, by simp [linkAdd, SparesLinks]⟩

theorem course_of_returned {oracle : Oracle daemonCalls} {result : Except Nat Nat}
    {settings : Settings}
    (ended : ((run fuel configIface notifyScript overrides board).exec oracle []).outcome =
      .returned (result, settings)) :
    AfterRun configIface
      ((run fuel configIface notifyScript overrides board).exec oracle []).events result := by
  have safe : Safe (onlyOps fun _ => True) (fun later result => AfterRun configIface later result.1)
      (run fuel configIface notifyScript overrides board) [] := safe_run_course
  have course := (safe.exec (along_true []
    ((run fuel configIface notifyScript overrides board).exec oracle []).events)).2
  rw [ended] at course
  exact course

/-! ## What is left of it -/

/-- A run that has come to its regular end: the management interface was there, the interface that
it has created was served with and is deleted, and nothing beside that interface has changed. -/
structure Cleaned (refuses : RtnlOp → Prop) (configIface name : String) (links : HostLinks)
    (events : History daemonCalls) (after : HostLinks) : Prop where
  management : (links configIface).isSome = true
  beside : Beside [name] links after
  gone : ¬ refuses .new → ¬ refuses (.del name) → after name = none
  /-- From the creation to the deletion the interface is there. -/
  serving : ∃ before parent vlan answer between, vlanName parent vlan = name ∧
    events = before ++ ⟨.createVlan parent vlan, answer⟩ ::
      (between ++ [⟨.deleteVlan parent vlan, ()⟩, ⟨.removeSocket, ()⟩]) ∧
    ∀ first rest middle, between = first ++ rest →
      Evolves (hostWorld refuses) links (before ++ ⟨.createVlan parent vlan, answer⟩ :: first)
          middle →
        Ensured name links answer middle

theorem present_of_allSpare {events : History daemonCalls} {name : String} {present : Bool}
    (spares : AllSpare events) (member : ⟨.ifaceExists name, present⟩ ∈ events)
    (evolves : Evolves (hostWorld refuses) links events after) :
    present = (links name).isSome := by
  obtain ⟨earlier, later, rfl⟩ := List.append_of_mem member
  obtain ⟨middle, first, rest⟩ := evolves_append.mp evolves
  obtain ⟨next, taken, _⟩ := evolves_cons_iff.mp rest
  obtain rfl : middle = links :=
    same_of_allSpare (fun event inside => spares event (List.mem_append_left _ inside)) first
  exact taken.2

/-- The interface is as it was created until the next operation on the host's interfaces. -/
theorem ensured_of_allSpare {before first : History daemonCalls} {parent : String} {vlan : UInt16}
    {answer : Except String Unit} (spareBefore : AllSpare before) (spareFirst : AllSpare first)
    (evolves : Evolves (hostWorld refuses) links
      (before ++ ⟨.createVlan parent vlan, answer⟩ :: first) after) :
    Ensured (vlanName parent vlan) links answer after := by
  obtain ⟨middle, idle, rest⟩ := evolves_append.mp evolves
  obtain ⟨created, taken, served⟩ := evolves_cons_iff.mp rest
  obtain rfl : middle = links := same_of_allSpare spareBefore idle
  obtain rfl : after = created := same_of_allSpare spareFirst served
  exact (createVlanIface_meets parent vlan).takes taken

end Run

/-- Whatever the kernel answers: a run that ends with the exit code 1 has not asked the board for
anything nor touched the host's interfaces, and one that ends with 0 has cleaned up. -/
theorem host_of_run {refuses : RtnlOp → Prop} {links after : HostLinks} {fuel : Nat}
    {configIface : String} {notifyScript : Option String} {overrides : CliOverrides}
    {board settings : Settings} {oracle : Oracle daemonCalls} {result : Except Nat Nat}
    (ended : ((run fuel configIface notifyScript overrides board).exec oracle []).outcome =
      .returned (result, settings))
    (evolves : Evolves (hostWorld refuses) links
      ((run fuel configIface notifyScript overrides board).exec oracle []).events after) :
    (∀ code, result = .error code → code = 1 ∧ after = links ∧
      ∀ event ∈ ((run fuel configIface notifyScript overrides board).exec oracle []).events,
        Aborts event.op) ∧
    (∀ code, result = .ok code → code = 0 ∧ ∃ vlan,
      Cleaned refuses configIface (vlanName (parentIface configIface) vlan) links
        ((run fuel configIface notifyScript overrides board).exec oracle []).events after) := by
  have course := course_of_returned ended
  generalize ((run fuel configIface notifyScript overrides board).exec oracle []).events = events
    at course evolves ⊢
  constructor
  · rintro code rfl
    obtain ⟨rfl, aborts⟩ := course
    have spares : AllSpare events := fun event member => (aborts event member).sparesLinks
    exact ⟨rfl, same_of_allSpare spares evolves, aborts⟩
  · rintro code rfl
    obtain ⟨rfl, before, vlan, answer, between, rfl, found, spareBefore, spareBetween⟩ := course
    refine ⟨rfl, vlan, ?_⟩
    rw [← List.cons_append, ← List.append_assoc] at evolves
    obtain ⟨served, idle, last⟩ := evolves_append.mp evolves
    obtain ⟨deleted, taken, rest⟩ := evolves_cons_iff.mp last
    have ensured := ensured_of_allSpare spareBefore spareBetween idle
    have deletion := (deleteVlanIface_meets (parentIface configIface) vlan).takes taken
    obtain rfl : after = deleted := same_of_allSpare (by simp [AllSpare, SparesLinks]) rest
    obtain ⟨middle, start, _⟩ := evolves_append.mp idle
    refine ⟨?_, ensured.beside.trans deletion.beside, deletion.gone, ?_⟩
    · exact (present_of_allSpare spareBefore found start).symm
    · refine ⟨before, parentIface configIface, vlan, answer, between, rfl, rfl, ?_⟩
      rintro first rest middle rfl reached
      exact ensured_of_allSpare spareBefore
        (fun event member => spareBetween event (List.mem_append_left _ member)) reached

/-! ## A run -/

/-- An event that fits this host, where the transport interface can be created. -/
def fitsManagedHost : Event daemonCalls → Bool
  | ⟨.ifaceExists name, present⟩ => name == "lan0.500" && present
  | ⟨.createVlan parent vlanId, answer⟩ => parent == "lan0" && vlanId == 2000 && answer.isOk
  | _ => true

theorem evolves_of_fits {links : HostLinks} {events : History daemonCalls}
    (managed : (links "lan0.500").isSome = true) (spares : AllSpare events)
    (fits : ∀ event ∈ events, fitsManagedHost event = true) :
    Evolves (hostWorld fun _ => False) links events links := by
  induction events with
  | nil => exact .nil _
  | cons event events ih =>
      obtain ⟨spare, spares⟩ := List.forall_mem_cons.mp spares
      obtain ⟨fit, fits⟩ := List.forall_mem_cons.mp fits
      refine .cons ?_ (ih spares fits)
      obtain ⟨op, answer⟩ := event
      cases op with
      | createVlan | deleteVlan => cases spare
      | ifaceExists name =>
          obtain ⟨isManagement, present⟩ := Bool.and_eq_true_iff.mp fit
          obtain rfl : name = "lan0.500" := beq_iff_eq.mp isManagement
          exact ⟨rfl, present.trans managed.symm⟩
      | _ => rfl

theorem creates_hostWith :
    hostWorld (fun _ => False) (hostWith 2000 none) ⟨.createVlan "lan0" 2000, .ok ()⟩
      (hostWith 2000 (some true)) := by
  have raised : Kernel (fun _ => False) (hostWith 2000 (some false))
      ⟨.setUp (vlanName "lan0" 2000), .ok ()⟩ (hostWith 2000 (some true)) := switches_hostWith ..
  exact ⟨fun _ _ => .ok (),
    .cons rfl (.cons (adds_hostWith (by decide) (by decide +kernel)) (.cons raised (.nil _))), rfl⟩

theorem deletes_hostWith :
    hostWorld (fun _ => False) (hostWith 2000 (some true)) ⟨.deleteVlan "lan0" 2000, ()⟩
      (hostWith 2000 none) := by
  have removed : Kernel (fun _ => False) (hostWith 2000 (some true))
      ⟨.del (vlanName "lan0" 2000), .ok ()⟩ (hostWith 2000 none) :=
    removes_hostWith (by decide +kernel) true
  exact ⟨fun _ _ => .ok (), .cons rfl (.cons removed (.nil _)), rfl⟩

theorem host_of_run_hostWith : ∃ after vlan events,
    Cleaned (fun _ => False) "lan0.500" (vlanName "lan0" vlan) (hostWith 2000 none) events
      after := by
  have ended : ((run 1 "lan0.500" none {} ⟨2000, 3⟩).exec (assigning 2000) []).outcome =
      .returned (.ok 0, ⟨2000, 3⟩) := by
    decide +kernel
  have fits : ((run 1 "lan0.500" none {} ⟨2000, 3⟩).exec (assigning 2000) []).events.all
      fitsManagedHost = true := by
    decide +kernel
  have evolves : Evolves (hostWorld fun _ => False) (hostWith 2000 none)
      ((run 1 "lan0.500" none {} ⟨2000, 3⟩).exec (assigning 2000) []).events
      (hostWith 2000 none) := by
    have course := course_of_returned ended
    generalize ((run 1 "lan0.500" none {} ⟨2000, 3⟩).exec (assigning 2000) []).events = events
      at course fits ⊢
    obtain ⟨_, before, vlan, answer, between, rfl, _, spareBefore, spareBetween⟩ := course
    simp only [List.all_append, List.all_cons, Bool.and_eq_true, List.all_eq_true] at fits
    obtain ⟨fitsBefore, fitsHere, fitsBetween, _⟩ := fits
    have parent : parentIface "lan0.500" = "lan0" := by decide +kernel
    rw [parent] at fitsHere ⊢
    obtain ⟨sameVlan, isOk⟩ := Bool.and_eq_true_iff.mp fitsHere
    obtain rfl : vlan = 2000 := by simpa using sameVlan
    obtain ⟨⟨⟩, rfl⟩ : ∃ value, answer = .ok value := by
      cases answer with
      | ok value => exact ⟨value, rfl⟩
      | error message => cases isOk
    have managed (iface : Option Bool) : (hostWith 2000 iface "lan0.500").isSome = true := by
      rw [hostWith_of_ne (by decide +kernel)]
      rfl
    refine evolves_append.mpr ⟨_, evolves_of_fits (managed none) spareBefore fitsBefore, ?_⟩
    refine .cons creates_hostWith (evolves_append.mpr ⟨hostWith 2000 (some true), ?_, ?_⟩)
    · exact evolves_of_fits (managed _) spareBetween fitsBetween
    · exact .cons deletes_hostWith (.cons rfl (.nil _))
  obtain ⟨_, vlan, cleaned⟩ := (host_of_run ended evolves).2 0 rfl
  exact ⟨_, vlan, _, cleaned⟩

end Daemon

end RbctlDsl.Dsl
