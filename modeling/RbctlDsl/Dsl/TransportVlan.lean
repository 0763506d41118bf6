import RbctlDsl.Dsl.Startup
import RbctlDsl.Lib.Traces

/-!
# The transport VLAN

Which VLAN ids the daemon sends in its link-add, creates a host interface for, and deletes at
the shutdown.  The one it asks for is in the range of transport VLANs; the one that the board
assigns is used as it comes.
-/

namespace RbctlDsl.Dsl

open RbctlDsl.Lib RbctlDsl.Proto

namespace Daemon

/-- Where a link-add descriptor has its VLAN id, in a request as in a reply. -/
def linkOffset? (subtype : UInt8) : Option Nat :=
  if subtype = 5 then some 0x12 else if subtype = 15 then some 6 else none

/-- The VLAN id in an operation of the daemon. -/
def vlanOf? : DaemonOp → Option UInt16
  | .request _ subtype payload =>
    (linkOffset? subtype).bind fun offset => be16At? payload (offset + 1)
  | .createVlan _ vlanId | .deleteVlan _ vlanId => some vlanId
  | _ => none

/-- The VLAN id that a reply to a link-add assigns, if it is long enough to carry one. -/
def assigned? : Event daemonCalls → Option UInt16
  | ⟨.request _ subtype _, .ok reply⟩ =>
    (linkOffset? subtype).bind fun offset => be16At? (stripEcho reply subtype) offset
  | _ => none

def IsTransportVlan (vlanId : UInt16) : Prop := 2000 ≤ vlanId.toNat ∧ vlanId.toNat ≤ 2007

/-! ## The interfaces that a run uses -/

/-- The requests to the kernel in the creation of an interface.  What the kernel answers there
may depend on all that the daemon has done. -/
def creation (kernel : History daemonCalls → Oracle rtnl) (before : History daemonCalls)
    (parent : String) (vlanId : UInt16) : History rtnl :=
  ((createVlanIface parent vlanId ()).exec (kernel before) []).events

/-- The kernel has added the interface. -/
def Added (kernel : History daemonCalls → Oracle rtnl) (before : History daemonCalls)
    (parent : String) (vlanId : UInt16) : Prop :=
  ⟨.addVlan parent vlanId, .ok ()⟩ ∈ creation kernel before parent vlanId

/-- The kernel has found that there is such an interface. -/
def Found (kernel : History daemonCalls → Oracle rtnl) (before : History daemonCalls)
    (parent : String) (vlanId : UInt16) : Prop :=
  ∃ error, error.code = some eexist ∧
    ⟨.addVlan parent vlanId, .error error⟩ ∈ creation kernel before parent vlanId

/-- The interface is set up. -/
def Raised (kernel : History daemonCalls → Oracle rtnl) (before : History daemonCalls)
    (parent : String) (vlanId : UInt16) : Prop :=
  ∃ answer, ⟨.setUp (vlanName parent vlanId), answer⟩ ∈ creation kernel before parent vlanId

/-- The run has created the interface: it has asked for it, and the kernel has added it. -/
def Created (kernel : History daemonCalls → Oracle rtnl) (events : History daemonCalls)
    (parent : String) (vlanId : UInt16) : Prop :=
  ∃ before answer after, events = before ++ ⟨.createVlan parent vlanId, answer⟩ :: after ∧
    Added kernel before parent vlanId

/-- The operation names this VLAN interface. -/
def Names (parent : String) (vlanId : UInt16) : DaemonOp → Prop
  | .createVlan iface id | .deleteVlan iface id => iface = parent ∧ id = vlanId
  | _ => False

/-- The daemon uses transport VLANs only, leaves the management interface alone, and sets up and
deletes nothing that it has not created. -/
structure StaysInTransport (kernel : History daemonCalls → Oracle rtnl) (configIface : String)
    (events : History daemonCalls) : Prop where
  ids : ∀ event ∈ events, ∀ vlanId, vlanOf? event.op = some vlanId → IsTransportVlan vlanId
  management : ∀ event ∈ events, ∀ parent vlanId, Names parent vlanId event.op →
    vlanName parent vlanId ≠ configIface
  raises : Along (fun before (event : Event daemonCalls) => ∀ parent vlanId,
    event.op = .createVlan parent vlanId →
      Raised kernel before parent vlanId → Added kernel before parent vlanId) [] events
  deletes : Along (fun before (event : Event daemonCalls) => ∀ parent vlanId,
    event.op = .deleteVlan parent vlanId → Created kernel before parent vlanId) [] events

/-- The VLAN id that the daemon goes on with after a link-add: the one that the reply assigns,
else the one asked for. -/
def linkVlan? : Event daemonCalls → Option UInt16
  | ⟨.request retries subtype payload, reply⟩ =>
    (assigned? ⟨.request retries subtype payload, reply⟩).or
      (vlanOf? (.request retries subtype payload))
  | _ => none

/-- The control loop has ended. -/
def ShutsDown (events : History daemonCalls) : Prop :=
  ∃ done, (⟨.waitWorker 3000, done⟩ : Event daemonCalls) ∈ events

/-- The board assigns transport VLANs only, the interface is not the management interface, and
the kernel adds it.  A kernel that reports another error than that the interface exists does no
harm before the shutdown. -/
structure EnvironmentFits (kernel : History daemonCalls → Oracle rtnl) (configIface : String)
    (events : History daemonCalls) : Prop where
  assigns : ∀ event ∈ events, ∀ vlanId, assigned? event = some vlanId → IsTransportVlan vlanId
  apart : ∀ event ∈ events, ∀ vlanId, linkVlan? event = some vlanId →
    vlanName (parentIface configIface) vlanId ≠ configIface
  adds : Along (fun before event => ∀ vlanId, linkVlan? event = some vlanId →
    Added kernel (before ++ [event]) (parentIface configIface) vlanId ∨
      ¬ Found kernel (before ++ [event]) (parentIface configIface) vlanId ∧
        ¬ ShutsDown events) [] events

/-! ## The parts of a run -/

def NoRequest : DaemonOp → Prop
  | .request .. => False
  | _ => True

/-- The operations after the creation of the interface. -/
def FinishOp (cfg : DslConfig) : DaemonOp → Prop
  | .spawnWorker worker => worker.cfg = cfg
  | .request .. | .createVlan .. => False
  | _ => True

theorem ServeOp.finish {overrides : CliOverrides} {cfg : DslConfig} {op : DaemonOp}
    (serves : ServeOp overrides cfg op) : FinishOp cfg op := by
  cases op with
  | spawnWorker worker => exact serves.1
  | request | createVlan => cases serves
  | _ => trivial

theorem FinishOp.noRequest {cfg : DslConfig} {op : DaemonOp} (finishes : FinishOp cfg op) :
    NoRequest op := by
  cases op with
  | request => cases finishes
  | _ => trivial

/-- Only an answer to a link-add assigns a VLAN. -/
theorem assigned?_eq_none {event : Event daemonCalls}
    (other : SetUpOp event.op ∨ NoRequest event.op) : assigned? event = none := by
  obtain ⟨op, answer⟩ := event
  cases op with
  | request retries subtype payload =>
      cases other with
      | inr never => cases never
      | inl setsUp =>
          obtain ⟨rfl, _⟩ := setsUp
          cases answer with
          | ok reply => rfl
          | error error => rfl
  | _ => rfl

theorem isTransportVlan_transportVlan {cfg : DslConfig} (bound : cfg.transportVlanBase ≤ 7) :
    IsTransportVlan (transportVlan cfg) := by
  have small : cfg.transportVlanBase.toNat ≤ 7 := UInt8.le_iff_toNat_le.mp bound
  have value : (transportVlan cfg).toNat = cfg.transportVlanBase.toNat + 2000 := by
    rw [transportVlan, UInt16.toNat_add, UInt8.toNat_toUInt16]
    exact Nat.mod_eq_of_lt (by simp; omega)
  rw [IsTransportVlan, value]
  omega

/-- The opcode, the descriptor and the VLAN offset of a link-add. -/
def linkOpcode : XferMode → UInt8
  | .ptm => 15
  | .atm => 5

def linkPayload (cfg : DslConfig) : Bytes :=
  match cfg.xferMode with
  | .ptm => 0x0F :: packPtmLink 0 0 0 (transportVlan cfg)
  | .atm => 0x05 :: packAtmLink (atmParams cfg.atm (transportVlan cfg))

theorem linkPayload_ptm {cfg : DslConfig} (mode : cfg.xferMode = .ptm) :
    linkPayload cfg = 0x0F :: packPtmLink 0 0 0 (transportVlan cfg) := by
  rw [linkPayload, mode]

theorem linkPayload_atm {cfg : DslConfig} (mode : cfg.xferMode = .atm) :
    linkPayload cfg = 0x05 :: packAtmLink (atmParams cfg.atm (transportVlan cfg)) := by
  rw [linkPayload, mode]

theorem vlanOf?_link (retries : UInt8) (cfg : DslConfig) :
    vlanOf? (.request retries (linkOpcode cfg.xferMode) (linkPayload cfg)) =
      some (transportVlan cfg) := by
  cases mode : cfg.xferMode with
  | ptm =>
      simp [vlanOf?, linkOffset?, linkOpcode, linkPayload, mode, packPtmLink, beBytes16, be16At?,
        be16_beBytes16]
  | atm =>
      simp [vlanOf?, linkOffset?, linkOpcode, linkPayload, mode, packAtmLink, atmParams,
        beBytes16, beBytes32, be16At?, be16_beBytes16]

section Link

variable {cfg : DslConfig} {board : Settings}

/-- A link-add with its reply. -/
def linkAdd (cfg : DslConfig) (board : Settings) (reply : Except BoardError Bytes) :
    Event daemonCalls :=
  ⟨.request board.retries (linkOpcode cfg.xferMode) (linkPayload cfg), reply⟩

/-- The VLAN after a link-add: the one that the reply assigns, else the one asked for. -/
def vlanAfter (cfg : DslConfig) (board : Settings) (reply : Except BoardError Bytes) : UInt16 :=
  (assigned? (linkAdd cfg board reply)).getD (transportVlan cfg)

theorem addLink_apply :
    addLink cfg board =
      .perform (.request board.retries (linkOpcode cfg.xferMode) (linkPayload cfg)) fun reply =>
        .pure (.ok (vlanAfter cfg board reply), board) := by
  cases mode : cfg.xferMode with
  | ptm =>
      rw [linkPayload_ptm mode, addLink, mode]
      simp only [Method.bind_apply, ptmLinkAdd, callBoard_exchange, Program.perform_bind,
        Program.pure_bind, Method.resume_ok, Method.pure_apply, linkOpcode]
      congr
      funext reply
      cases reply with
      | error error => rfl
      | ok reply =>
          simp [Except.bind, Except.toOption, assignedVlan_eq, vlanAfter, linkAdd, assigned?,
            linkOffset?, linkOpcode, mode]
  | atm =>
      rw [linkPayload_atm mode, addLink, mode]
      simp only [Method.bind_apply, atmLinkAdd, callBoard_exchange, Program.perform_bind,
        Program.pure_bind, Method.resume_ok, Method.pure_apply, linkOpcode]
      congr
      funext reply
      cases reply with
      | error error => rfl
      | ok reply =>
          simp [Except.bind, Except.toOption, assignedVlan_eq, vlanAfter, linkAdd, assigned?,
            linkOffset?, linkOpcode, mode, atmParams]

/-- What follows the creation of the interface. -/
def finish (fuel : Nat) (configIface : String) (notifyScript : Option String)
    (overrides : CliOverrides) (cfg : DslConfig) (vlan : UInt16) : Daemon Nat := do
  serve fuel notifyScript overrides cfg
  shutdown notifyScript (parentIface configIface) vlan
  return 0

theorem operate_apply (fuel : Nat) (configIface : String) (notifyScript : Option String)
    (overrides : CliOverrides) :
    operate fuel configIface notifyScript overrides cfg board =
      .perform (.request board.retries (linkOpcode cfg.xferMode) (linkPayload cfg)) fun reply =>
        .perform (.createVlan (parentIface configIface) (vlanAfter cfg board reply)) fun _ =>
          finish fuel configIface notifyScript overrides cfg (vlanAfter cfg board reply)
            board := by
  rw [operate, Method.bind_apply, addLink_apply]
  rfl

end Link

/-! ## The course of a run -/

section Course

variable {fuel : Nat} {configIface : String} {notifyScript : Option String}
  {overrides : CliOverrides} {cfg : DslConfig} {board : Settings} {vlan : UInt16}

theorem keeps_finish :
    Keeps (FinishOp cfg) (fun _ => ())
      (finish fuel configIface notifyScript overrides cfg vlan) := by
  refine keeps_bind ((keeps_serve fuel notifyScript overrides cfg).mono fun _ =>
    ServeOp.finish) fun _ => ?_
  refine keeps_bind ?_ fun _ => keeps_pure 0
  refine keeps_bind (keeps_notifying notifyScript fun _ => trivial) fun _ => ?_
  refine keeps_bind (keeps_perform trivial) fun _ => ?_
  exact keeps_bind (keeps_perform trivial) fun _ => keeps_perform trivial

/-- An operation between the creation of the interface and the end of the control loop, or the
notification before the wait. -/
def Quiet : DaemonOp → Prop
  | .request .. | .createVlan .. | .deleteVlan .. | .waitWorker _ => False
  | _ => True

theorem ServeOp.quiet {op : DaemonOp} (serves : ServeOp overrides cfg op) : Quiet op := by
  cases op with
  | request | createVlan | deleteVlan | waitWorker => cases serves
  | _ => trivial

/-- The end of a run that has come to its shutdown. -/
def Ending (parent : String) (vlan : UInt16) (events : History daemonCalls) : Prop :=
  ∃ done, events =
    [⟨.waitWorker 3000, done⟩, ⟨.deleteVlan parent vlan, ()⟩, ⟨.removeSocket, ()⟩]

/-- What a run does: it stops in the set-up, or it adds the link, creates the interface of the VLAN
that it goes on with, serves, and deletes this interface if it comes to its end. -/
inductive Course (configIface : String) : History daemonCalls → Prop where
  | stopped {events : History daemonCalls} (setsUp : ∀ event ∈ events, SetUpOp event.op) :
      Course configIface events
  | linked {before between ending : History daemonCalls} {cfg : DslConfig} {board : Settings}
      {reply : Except BoardError Bytes} {answer : Except String Unit}
      (setsUp : ∀ event ∈ before, SetUpOp event.op) (prepared : Prepared cfg)
      (quiet : ∀ event ∈ between, Quiet event.op)
      (ends : ending = [] ∨ Ending (parentIface configIface) (vlanAfter cfg board reply) ending) :
      Course configIface (before ++ linkAdd cfg board reply ::
        ⟨.createVlan (parentIface configIface) (vlanAfter cfg board reply), answer⟩ ::
          (between ++ ending))

section Performs

variable {events : History daemonCalls} {α : Type}

theorem mem_of_keeps {allowed : DaemonOp → Prop} {method : Daemon α}
    {outcome : Outcome (Except Nat α × Settings)} (keeps : Keeps allowed (fun _ => ()) method)
    (performs : Performs (method board) events outcome) : ∀ event ∈ events, allowed event.op :=
  along_iff_forall_mem.mp (performs.along (fun _ _ => trivial) (keeps board [])).1

theorem shutdown_course {outcome : Outcome (Except Nat Unit × Settings)} {parent : String}
    (performs : Performs (shutdown notifyScript parent vlan board) events outcome) :
    ∃ telling ending, events = telling ++ ending ∧ (∀ event ∈ telling, Quiet event.op) ∧
      (ending = [] ∨ Ending parent vlan ending) := by
  have tells : Keeps Quiet (fun _ => ())
      (notifying notifyScript fun script => .emitStatus script .down) :=
    keeps_notifying notifyScript fun _ => trivial
  rcases performs.method_cases with ⟨_, after, first, rest, rfl, before, later⟩ |
    ⟨error, after, _, before⟩ | ⟨message, _, before⟩ | ⟨_, before⟩
  · obtain ⟨done, _, rfl, waited⟩ := Performs.perform_iff.mp later
    obtain ⟨_, _, rfl, deleted⟩ := Performs.perform_iff.mp waited
    obtain ⟨_, _, rfl, removed⟩ := Performs.perform_iff.mp deleted
    obtain ⟨rfl, _⟩ := Performs.pure_iff.mp removed
    exact ⟨first, _, rfl, mem_of_keeps tells before, .inr ⟨done, rfl⟩⟩
  · exact ⟨events, [], (List.append_nil _).symm, mem_of_keeps tells before, .inl rfl⟩
  · exact ⟨events, [], (List.append_nil _).symm, mem_of_keeps tells before, .inl rfl⟩
  · exact ⟨events, [], (List.append_nil _).symm, mem_of_keeps tells before, .inl rfl⟩

theorem finish_course {outcome : Outcome (Except Nat Nat × Settings)}
    (performs : Performs (finish fuel configIface notifyScript overrides cfg vlan board) events
      outcome) :
    ∃ between ending, events = between ++ ending ∧ (∀ event ∈ between, Quiet event.op) ∧
      (ending = [] ∨ Ending (parentIface configIface) vlan ending) := by
  have serves : Keeps Quiet (fun _ => ()) (serve fuel notifyScript overrides cfg) :=
    (keeps_serve fuel notifyScript overrides cfg).mono fun _ => ServeOp.quiet
  rcases performs.method_cases with ⟨_, after, first, rest, rfl, before, later⟩ |
    ⟨error, after, _, before⟩ | ⟨message, _, before⟩ | ⟨_, before⟩
  · have served := mem_of_keeps serves before
    obtain ⟨shut, _, outcome, down⟩ : ∃ shut after outcome,
        rest = shut ∧ Performs (shutdown notifyScript (parentIface configIface) vlan after) shut
          outcome := by
      rcases later.method_cases with ⟨_, last, shut, none, rfl, before, nothing⟩ |
        ⟨error, last, _, before⟩ | ⟨message, _, before⟩ | ⟨_, before⟩
      · obtain ⟨rfl, _⟩ := Performs.pure_iff.mp nothing
        exact ⟨_, _, _, List.append_nil _, before⟩
      · exact ⟨_, _, _, rfl, before⟩
      · exact ⟨_, _, _, rfl, before⟩
      · exact ⟨_, _, _, rfl, before⟩
    obtain ⟨rfl, down⟩ := down
    obtain ⟨telling, ending, rfl, quiet, ends⟩ := shutdown_course down
    exact ⟨first ++ telling, ending, (List.append_assoc ..).symm,
      List.forall_mem_append.mpr ⟨served, quiet⟩, ends⟩
  · exact ⟨events, [], (List.append_nil _).symm, mem_of_keeps serves before, .inl rfl⟩
  · exact ⟨events, [], (List.append_nil _).symm, mem_of_keeps serves before, .inl rfl⟩
  · exact ⟨events, [], (List.append_nil _).symm, mem_of_keeps serves before, .inl rfl⟩

theorem course_of_performs {outcome : Outcome (Except Nat Nat × Settings)}
    (performs : Performs (run fuel configIface notifyScript overrides board) events outcome) :
    Course configIface events := by
  have safe : Safe (onlyOps SetUpOp) (fun _ result => ∀ cfg, result.1 = .ok cfg → Prepared cfg)
      (setUp configIface overrides board) [] := safe_setUp configIface
  have noPromise (history : History daemonCalls) (event : Event daemonCalls) :
      (onlyOps SetUpOp : Contract daemonCalls).answers history event := trivial
  rcases performs.method_cases with ⟨cfg, after, first, rest, rfl, before, later⟩ |
    ⟨error, after, _, before⟩ | ⟨message, _, before⟩ | ⟨_, before⟩
  · obtain ⟨setsUp, prepared⟩ := before.along noPromise safe
    rw [operate_apply] at later
    obtain ⟨reply, _, rfl, linked⟩ := Performs.perform_iff.mp later
    obtain ⟨answer, _, rfl, created⟩ := Performs.perform_iff.mp linked
    obtain ⟨between, ending, rfl, quiet, ends⟩ := finish_course created
    exact .linked (along_iff_forall_mem.mp setsUp) (prepared _ rfl cfg rfl) quiet ends
  · exact .stopped (along_iff_forall_mem.mp (before.along noPromise safe).1)
  · exact .stopped (along_iff_forall_mem.mp (before.along noPromise safe).1)
  · exact .stopped (along_iff_forall_mem.mp (before.along noPromise safe).1)

end Performs

end Course

/-! ## The condition -/

/-- The requests of a creation: it stops at the first error, but for an interface that is there. -/
inductive CreationTrace (parent : String) (vlanId : UInt16) : History rtnl → Prop where
  | closed (error : OsError) : CreationTrace parent vlanId [⟨.new, .error error⟩]
  | refused (error : OsError) (other : error.code ≠ some eexist) :
      CreationTrace parent vlanId [⟨.new, .ok ()⟩, ⟨.addVlan parent vlanId, .error error⟩]
  | raised {added : Except OsError Unit}
      (there : added = .ok () ∨ ∃ error, error.code = some eexist ∧ added = .error error)
      (answer : Except OsError Unit) :
      CreationTrace parent vlanId [⟨.new, .ok ()⟩, ⟨.addVlan parent vlanId, added⟩,
        ⟨.setUp (vlanName parent vlanId), answer⟩]

/-- The last request, to set the interface up. -/
theorem eq_of_setUp {next : Except OsError Unit → Method rtnl Unit String Unit} {name : String}
    {events : History rtnl} {outcome : Outcome (Except String Unit × Unit)}
    (ends : ∀ answer, ∃ result, next answer () = .pure result)
    (performs : Performs ((onRtnl (.setUp name) >>= next) ()) events outcome) :
    ∃ answer, events = [⟨.setUp name, answer⟩] := by
  obtain ⟨answer, rest, rfl, later⟩ := Performs.perform_iff.mp performs
  obtain ⟨result, pure⟩ := ends answer
  rw [Program.pure_bind, Method.resume_ok, pure] at later
  obtain ⟨rfl, _⟩ := Performs.pure_iff.mp later
  exact ⟨answer, rfl⟩

theorem creationTrace_of_performs {parent : String} {vlanId : UInt16} {events : History rtnl}
    {outcome : Outcome (Except String Unit × Unit)}
    (performs : Performs (createVlanIface parent vlanId ()) events outcome) :
    CreationTrace parent vlanId events := by
  unfold createVlanIface at performs
  obtain ⟨opened, _, rfl, opens⟩ := Performs.perform_iff.mp performs
  cases opened with
  | error error =>
      obtain ⟨rfl, _⟩ := Performs.pure_iff.mp opens
      exact .closed error
  | ok socket =>
      obtain ⟨added, _, rfl, adds⟩ := Performs.perform_iff.mp opens
      cases added with
      | ok new =>
          obtain ⟨answer, rfl⟩ :=
            eq_of_setUp (fun answer => by cases answer <;> exact ⟨_, rfl⟩) adds
          exact .raised (.inl rfl) answer
      | error error =>
          by_cases exist : error.code = some eexist
          · simp only [Program.pure_bind, Method.resume_ok, if_pos exist] at adds
            obtain ⟨answer, rfl⟩ :=
              eq_of_setUp (fun answer => by cases answer <;> exact ⟨_, rfl⟩) adds
            exact .raised (.inr ⟨error, exist, rfl⟩) answer
          · simp only [Program.pure_bind, Method.resume_ok, if_neg exist] at adds
            obtain ⟨rfl, _⟩ := Performs.pure_iff.mp adds
            exact .refused error exist

/-- The interface is set up where it is new, and where it was there before. -/
theorem raised_iff {kernel : History daemonCalls → Oracle rtnl} {before : History daemonCalls}
    {parent : String} {vlanId : UInt16} :
    Raised kernel before parent vlanId ↔
      Added kernel before parent vlanId ∨ Found kernel before parent vlanId := by
  have trace : CreationTrace parent vlanId (creation kernel before parent vlanId) :=
    creationTrace_of_performs (Performs.of_exec _ _ [])
  unfold Raised Added Found
  generalize creation kernel before parent vlanId = events at trace
  cases trace with
  | closed error => simp
  | refused error other => simp [other]
  | raised there answer =>
      rcases there with rfl | ⟨error, exist, rfl⟩
      · simp
      · simp [exist]

/-- An event in which no VLAN is used. -/
structure NoVlan (event : Event daemonCalls) : Prop where
  id : vlanOf? event.op = none
  assigned : assigned? event = none
  link : linkVlan? event = none
  unnamed : ∀ parent vlanId, ¬ Names parent vlanId event.op

theorem NoVlan.op_ne {event : Event daemonCalls} (noVlan : NoVlan event) {parent : String}
    {vlanId : UInt16} :
    event.op ≠ .createVlan parent vlanId ∧ event.op ≠ .deleteVlan parent vlanId := by
  constructor
  · intro equal
    exact noVlan.unnamed parent vlanId (equal ▸ ⟨rfl, rfl⟩)
  · intro equal
    exact noVlan.unnamed parent vlanId (equal ▸ ⟨rfl, rfl⟩)

theorem SetUpOp.noVlan {event : Event daemonCalls} (setsUp : SetUpOp event.op) :
    NoVlan event := by
  obtain ⟨op, answer⟩ := event
  cases op with
  | request retries subtype payload =>
      obtain ⟨rfl, _⟩ := setsUp
      cases answer with
      | ok reply => exact ⟨rfl, rfl, rfl, fun _ _ => id⟩
      | error error => exact ⟨rfl, rfl, rfl, fun _ _ => id⟩
  | createVlan | deleteVlan => cases setsUp
  | _ => exact ⟨rfl, rfl, rfl, fun _ _ => id⟩

theorem Quiet.noVlan {event : Event daemonCalls} (quiet : Quiet event.op) : NoVlan event := by
  obtain ⟨op, answer⟩ := event
  cases op with
  | request | createVlan | deleteVlan => cases quiet
  | _ => exact ⟨rfl, rfl, rfl, fun _ _ => id⟩

/-- What happens in a run besides the link-add, the creation and the shutdown. -/
theorem along_of_noVlan {property : History daemonCalls → Event daemonCalls → Prop}
    {before events : History daemonCalls} (none : ∀ event ∈ events, NoVlan event)
    (holds : ∀ before event, NoVlan event → property before event) :
    Along property before events :=
  along_iff_forall_split.mpr fun _ event _ split =>
    holds _ event (none event (split ▸ List.mem_append_right _ (List.mem_cons_self ..)))

theorem linkVlan?_linkAdd (cfg : DslConfig) (board : Settings) (reply : Except BoardError Bytes) :
    linkVlan? (linkAdd cfg board reply) = some (vlanAfter cfg board reply) := by
  rw [linkAdd, linkVlan?, vlanOf?_link, Option.or_some]
  rfl

theorem vlanAfter_of_assigned {cfg : DslConfig} {board : Settings}
    {reply : Except BoardError Bytes} {vlanId : UInt16}
    (assigned : assigned? (linkAdd cfg board reply) = some vlanId) :
    vlanAfter cfg board reply = vlanId := by
  rw [vlanAfter, assigned, Option.getD_some]

theorem isTransportVlan_vlanAfter {cfg : DslConfig} {board : Settings}
    {reply : Except BoardError Bytes} (requested : IsTransportVlan (transportVlan cfg))
    (promised : ∀ vlanId, assigned? (linkAdd cfg board reply) = some vlanId →
      IsTransportVlan vlanId) : IsTransportVlan (vlanAfter cfg board reply) := by
  rw [vlanAfter]
  cases assigned : assigned? (linkAdd cfg board reply) with
  | none => exact requested
  | some vlanId => exact promised vlanId assigned

/-- The one event of a list that has a property is where it is. -/
theorem split_unique {α : Type} {property : α → Prop} {before after earlier later : List α}
    {element other : α} (first : ∀ x ∈ before, ¬ property x) (rest : ∀ x ∈ after, ¬ property x)
    (holds : property other) (same : before ++ element :: after = earlier ++ other :: later) :
    before = earlier := by
  induction before generalizing earlier with
  | nil =>
      cases earlier with
      | nil => rfl
      | cons head earlier =>
          obtain rfl := (List.cons.inj same).2
          exact absurd holds (rest _ (List.mem_append_right _ (List.mem_cons_self ..)))
  | cons head before ih =>
      obtain ⟨here, there⟩ := List.forall_mem_cons.mp first
      cases earlier with
      | nil => exact absurd holds ((List.cons.inj same).1 ▸ here)
      | cons _ earlier =>
          obtain ⟨rfl, others⟩ := List.cons.inj same
          rw [ih there others]

section Condition

variable {kernel : History daemonCalls → Oracle rtnl} {configIface : String}
  {events before between ending : History daemonCalls} {cfg : DslConfig} {board : Settings}
  {reply : Except BoardError Bytes} {answer : Except String Unit}

theorem Ending.eq_of_mem {vlan : UInt16} {event : Event daemonCalls}
    (ends : ending = [] ∨ Ending (parentIface configIface) vlan ending) (member : event ∈ ending) :
    NoVlan event ∨ event = ⟨.deleteVlan (parentIface configIface) vlan, ()⟩ := by
  rcases ends with rfl | ⟨done, rfl⟩
  · cases member
  · simp only [List.mem_cons, List.not_mem_nil, or_false] at member
    rcases member with rfl | rfl | rfl
    · exact .inl ⟨rfl, rfl, rfl, fun _ _ => id⟩
    · exact .inr rfl
    · exact .inl ⟨rfl, rfl, rfl, fun _ _ => id⟩

/-- The events of a run that has added the link. -/
theorem linked_cases {event : Event daemonCalls}
    (setsUp : ∀ event ∈ before, SetUpOp event.op) (quiet : ∀ event ∈ between, Quiet event.op)
    (ends : ending = [] ∨ Ending (parentIface configIface) (vlanAfter cfg board reply) ending)
    (member : event ∈ before ++ linkAdd cfg board reply ::
      ⟨.createVlan (parentIface configIface) (vlanAfter cfg board reply), answer⟩ ::
        (between ++ ending)) :
    NoVlan event ∨ event = linkAdd cfg board reply ∨
      event = ⟨.createVlan (parentIface configIface) (vlanAfter cfg board reply), answer⟩ ∨
      event = ⟨.deleteVlan (parentIface configIface) (vlanAfter cfg board reply), ()⟩ := by
  simp only [List.mem_append, List.mem_cons] at member
  rcases member with up | rfl | rfl | calm | last
  · exact .inl (setsUp event up).noVlan
  · exact .inr (.inl rfl)
  · exact .inr (.inr (.inl rfl))
  · exact .inl (quiet event calm).noVlan
  · exact (Ending.eq_of_mem ends last).imp_right fun equal => .inr (.inr equal)

/-- A run that has come to its shutdown has come to its end. -/
theorem ending_of_shutsDown (setsUp : ∀ event ∈ before, SetUpOp event.op)
    (quiet : ∀ event ∈ between, Quiet event.op)
    (ends : ending = [] ∨ Ending (parentIface configIface) (vlanAfter cfg board reply) ending)
    (shuts : ShutsDown (before ++ linkAdd cfg board reply ::
      ⟨.createVlan (parentIface configIface) (vlanAfter cfg board reply), answer⟩ ::
        (between ++ ending))) :
    Ending (parentIface configIface) (vlanAfter cfg board reply) ending := by
  obtain ⟨done, member⟩ := shuts
  rcases ends with rfl | ends
  · simp only [List.append_nil, List.mem_append, List.mem_cons] at member
    rcases member with up | link | created | calm
    · cases setsUp _ up
    · cases congrArg Event.op link
    · cases congrArg Event.op created
    · cases quiet _ calm
  · exact ends

theorem along_ending {property : History daemonCalls → Event daemonCalls → Prop}
    {history : History daemonCalls} {parent : String} {vlan : UInt16}
    (ends : ending = [] ∨ Ending parent vlan ending)
    (none : ∀ before event, NoVlan event → property before event) :
    Along property history ending ↔ ∀ done, ending =
        [⟨.waitWorker 3000, done⟩, ⟨.deleteVlan parent vlan, ()⟩, ⟨.removeSocket, ()⟩] →
      property (history ++ [⟨.waitWorker 3000, done⟩]) ⟨.deleteVlan parent vlan, ()⟩ := by
  rcases ends with rfl | ⟨done, rfl⟩
  · exact iff_of_true trivial fun done equal => by cases equal
  · constructor
    · rintro along _ ⟨⟩
      exact along.2.1
    · intro deletes
      exact ⟨none _ _ ⟨rfl, rfl, rfl, fun _ _ => id⟩, deletes done rfl,
        none _ _ ⟨rfl, rfl, rfl, fun _ _ => id⟩, trivial⟩

/-- What holds of every event without a VLAN holds along a run if it does at the three others. -/
theorem along_linked {property : History daemonCalls → Event daemonCalls → Prop}
    (setsUp : ∀ event ∈ before, SetUpOp event.op) (quiet : ∀ event ∈ between, Quiet event.op)
    (ends : ending = [] ∨ Ending (parentIface configIface) (vlanAfter cfg board reply) ending)
    (none : ∀ before event, NoVlan event → property before event) :
    Along property [] (before ++ linkAdd cfg board reply ::
        ⟨.createVlan (parentIface configIface) (vlanAfter cfg board reply), answer⟩ ::
          (between ++ ending)) ↔
      property before (linkAdd cfg board reply) ∧
      property (before ++ [linkAdd cfg board reply])
        ⟨.createVlan (parentIface configIface) (vlanAfter cfg board reply), answer⟩ ∧
      ∀ done, ending = [⟨.waitWorker 3000, done⟩,
          ⟨.deleteVlan (parentIface configIface) (vlanAfter cfg board reply), ()⟩,
          ⟨.removeSocket, ()⟩] →
        property (before ++ [linkAdd cfg board reply] ++
            ⟨.createVlan (parentIface configIface) (vlanAfter cfg board reply), answer⟩ ::
              (between ++ [⟨.waitWorker 3000, done⟩]))
          ⟨.deleteVlan (parentIface configIface) (vlanAfter cfg board reply), ()⟩ := by
  have up : Along property [] before :=
    along_of_noVlan (fun event member => (setsUp event member).noVlan) none
  have calm (history : History daemonCalls) : Along property history between :=
    along_of_noVlan (fun event member => (quiet event member).noVlan) none
  simp only [along_append, Along, List.nil_append, up, calm, true_and, along_ending ends none,
    List.append_assoc, List.cons_append]

/-- The only creation of a run is the one after the link-add. -/
theorem added_of_created {parent : String} {vlanId : UInt16} {later : History daemonCalls}
    (setsUp : ∀ event ∈ before, SetUpOp event.op)
    (others : ∀ event ∈ later, ∀ parent vlanId, event.op ≠ .createVlan parent vlanId)
    (created : Created kernel (before ++ [linkAdd cfg board reply] ++
      ⟨.createVlan (parentIface configIface) (vlanAfter cfg board reply), answer⟩ :: later)
        parent vlanId) :
    Added kernel (before ++ [linkAdd cfg board reply]) parent vlanId := by
  obtain ⟨earlier, answer', after, split, added⟩ := created
  have first : ∀ event ∈ before ++ [linkAdd cfg board reply],
      ¬ ∃ parent vlanId, event.op = .createVlan parent vlanId := by
    rintro event member ⟨parent, vlanId, equal⟩
    rcases List.mem_append.mp member with up | link
    · exact (setsUp event up).noVlan.op_ne.1 equal
    · rw [List.mem_singleton.mp link] at equal
      cases equal
  have rest : ∀ event ∈ later, ¬ ∃ parent vlanId, event.op = .createVlan parent vlanId :=
    fun event member ⟨parent, vlanId, equal⟩ => others event member parent vlanId equal
  rwa [split_unique first rest ⟨parent, vlanId, rfl⟩ split]

theorem environmentFits_of_stays (course : Course configIface events)
    (stays : StaysInTransport kernel configIface events) :
    EnvironmentFits kernel configIface events := by
  cases course with
  | stopped setsUp =>
      have none (event : Event daemonCalls) (member : event ∈ events) : NoVlan event :=
        (setsUp event member).noVlan
      refine ⟨fun event member vlanId found => ?_, fun event member vlanId found => ?_,
        along_of_noVlan none fun before event noVlan vlanId found => ?_⟩
      · rw [(none event member).assigned] at found
        cases found
      · rw [(none event member).link] at found
        cases found
      · rw [noVlan.link] at found
        cases found
  | @linked before between ending cfg board reply answer setsUp prepared quiet ends =>
      have member : (⟨.createVlan (parentIface configIface) (vlanAfter cfg board reply), answer⟩ :
          Event daemonCalls) ∈ before ++ linkAdd cfg board reply ::
            ⟨.createVlan (parentIface configIface) (vlanAfter cfg board reply), answer⟩ ::
              (between ++ ending) := by simp
      have inRange : IsTransportVlan (vlanAfter cfg board reply) := stays.ids _ member _ rfl
      have raises := ((along_linked setsUp quiet ends
        fun before event noVlan parent vlanId equal =>
          absurd equal noVlan.op_ne.1).mp stays.raises).2.1
      have deletes := ((along_linked setsUp quiet ends
        fun before event noVlan parent vlanId equal =>
          absurd equal noVlan.op_ne.2).mp stays.deletes).2.2
      refine ⟨fun event member vlanId found => ?_, fun event isEvent vlanId found => ?_,
        (along_linked setsUp quiet ends ?_).mpr ⟨?_, ?_, ?_⟩⟩
      · rcases linked_cases setsUp quiet ends member with noVlan | rfl | rfl | rfl
        · rw [noVlan.assigned] at found
          cases found
        · exact vlanAfter_of_assigned found ▸ inRange
        · cases found
        · cases found
      · rcases linked_cases setsUp quiet ends isEvent with noVlan | rfl | rfl | rfl
        · rw [noVlan.link] at found
          cases found
        · rw [linkVlan?_linkAdd, Option.some.injEq] at found
          exact found ▸ stays.management _ member _ _ ⟨rfl, rfl⟩
        · cases found
        · cases found
      · intro before event noVlan vlanId found
        rw [noVlan.link] at found
        cases found
      · intro vlanId found
        rw [linkVlan?_linkAdd, Option.some.injEq] at found
        subst found
        by_cases added : Added kernel (before ++ [linkAdd cfg board reply])
            (parentIface configIface) (vlanAfter cfg board reply)
        · exact .inl added
        · refine .inr ⟨fun exist => added (raises _ _ rfl (raised_iff.mpr (.inr exist))), ?_⟩
          intro shuts
          obtain ⟨done, rfl⟩ := ending_of_shutsDown setsUp quiet ends shuts
          have created := deletes done rfl _ _ rfl
          refine added (added_of_created setsUp
            (fun event member parent vlanId equal => ?_) created)
          rcases List.mem_append.mp member with calm | wait
          · exact (quiet event calm).noVlan.op_ne.1 equal
          · rw [List.mem_singleton.mp wait] at equal
            cases equal
      · intro vlanId found
        cases found
      · intro done _ vlanId found
        cases found

theorem stays_of_environmentFits (course : Course configIface events)
    (fits : EnvironmentFits kernel configIface events) :
    StaysInTransport kernel configIface events := by
  cases course with
  | stopped setsUp =>
      have none (event : Event daemonCalls) (member : event ∈ events) : NoVlan event :=
        (setsUp event member).noVlan
      refine ⟨fun event member vlanId found => ?_, fun event member parent vlanId names => ?_,
        along_of_noVlan none fun before event noVlan parent vlanId equal => ?_,
        along_of_noVlan none fun before event noVlan parent vlanId equal => ?_⟩
      · rw [(none event member).id] at found
        cases found
      · exact absurd names ((none event member).unnamed parent vlanId)
      · exact absurd equal noVlan.op_ne.1
      · exact absurd equal noVlan.op_ne.2
  | @linked before between ending cfg board reply answer setsUp prepared quiet ends =>
      have isLink : linkAdd cfg board reply ∈ before ++ linkAdd cfg board reply ::
          ⟨.createVlan (parentIface configIface) (vlanAfter cfg board reply), answer⟩ ::
            (between ++ ending) := by simp
      have requested : IsTransportVlan (transportVlan cfg) :=
        isTransportVlan_transportVlan prepared.transportVlanBase
      have inRange : IsTransportVlan (vlanAfter cfg board reply) :=
        isTransportVlan_vlanAfter requested fun vlanId => fits.assigns _ isLink vlanId
      have apart := fits.apart _ isLink _ (linkVlan?_linkAdd cfg board reply)
      have adds := ((along_linked setsUp quiet ends fun before event noVlan vlanId found => by
        rw [noVlan.link] at found
        cases found).mp fits.adds).1 _ (linkVlan?_linkAdd cfg board reply)
      refine ⟨fun event member vlanId found => ?_, fun event member parent vlanId names => ?_,
        (along_linked setsUp quiet ends fun before event noVlan parent vlanId equal =>
          absurd equal noVlan.op_ne.1).mpr ⟨?_, ?_, ?_⟩,
        (along_linked setsUp quiet ends fun before event noVlan parent vlanId equal =>
          absurd equal noVlan.op_ne.2).mpr ⟨?_, ?_, ?_⟩⟩
      · rcases linked_cases setsUp quiet ends member with noVlan | rfl | rfl | rfl
        · rw [noVlan.id] at found
          cases found
        · rw [linkAdd, vlanOf?_link, Option.some.injEq] at found
          exact found ▸ requested
        · cases found
          exact inRange
        · cases found
          exact inRange
      · rcases linked_cases setsUp quiet ends member with noVlan | rfl | rfl | rfl
        · exact absurd names (noVlan.unnamed parent vlanId)
        · cases names
        · obtain ⟨rfl, rfl⟩ := names
          exact apart
        · obtain ⟨rfl, rfl⟩ := names
          exact apart
      · intro parent vlanId equal
        cases equal
      · rintro _ _ ⟨⟩ raised
        rcases adds with added | ⟨absent, _⟩
        · exact added
        · exact (raised_iff.mp raised).resolve_right absent
      · intro done _ parent vlanId equal
        cases equal
      · intro parent vlanId equal
        cases equal
      · intro parent vlanId equal
        cases equal
      · rintro done rfl _ _ ⟨⟩
        have added := adds.resolve_right fun ⟨_, runs⟩ => runs ⟨done, by simp⟩
        exact ⟨_, answer, between ++ [⟨.waitWorker 3000, done⟩], rfl, added⟩

end Condition

/-- A board that assigns a VLAN, below a daemon that is told to exit at once. -/
def assigning (vlan : UInt16) : Oracle daemonCalls
  | _, .loadUci => .error "uci: no such package"
  | _, .ifaceExists _ | _, .bindIpc | _, .connectUbus | _, .shouldExit => true
  | _, .takeReload | _, .takeRestart | _, .waitWorker _ => true
  | _, .openSocket _ | _, .createVlan .. => .ok ()
  | _, .request _ subtype _ =>
    .ok (if subtype = 15 then 0x0F :: List.replicate 6 0 ++ beBytes16 vlan else beBytes32 0)
  | _, .acceptOne => .ok none
  | _, .publishConfig .. | _, .emitTcLayer .. | _, .spawnWorker _ | _, .sendCmd _ => ()
  | _, .setExit | _, .spawnFirmwareIpc .. | _, .pollUbus | _, .sleep _ => ()
  | _, .emitStatus .. | _, .deleteVlan .. | _, .removeSocket => ()

/-- The daemon stays within the transport VLANs and its own interfaces exactly where its
environment fits. -/
theorem staysInTransport_iff (kernel : History daemonCalls → Oracle rtnl) (fuel : Nat)
    (configIface : String) (notifyScript : Option String) (overrides : CliOverrides)
    (board : Settings) (oracle : Oracle daemonCalls) :
    StaysInTransport kernel configIface
        ((run fuel configIface notifyScript overrides board).exec oracle []).events ↔
      EnvironmentFits kernel configIface
        ((run fuel configIface notifyScript overrides board).exec oracle []).events := by
  have course : Course configIface
      ((run fuel configIface notifyScript overrides board).exec oracle []).events :=
    course_of_performs (Performs.of_exec oracle _ [])
  exact ⟨environmentFits_of_stays course, stays_of_environmentFits course⟩

/-- A kernel on a host with a certain VLAN interface. -/
def kernelWith (parent : String) (vlanId : UInt16) : History daemonCalls → Oracle rtnl
  | _, _, .addVlan iface id =>
    if iface = parent ∧ id = vlanId then .error ⟨some eexist, "File exists"⟩ else .ok ()
  | _, _, .new | _, _, .setUp _ | _, _, .del _ => .ok ()

/-- A board that assigns the management VLAN has its interface deleted at the shutdown. -/
theorem not_staysInTransport_management :
    ¬ ∀ (kernel : History daemonCalls → Oracle rtnl) (fuel : Nat) (configIface : String)
      (notifyScript : Option String) (overrides : CliOverrides) (board : Settings)
      (oracle : Oracle daemonCalls),
      StaysInTransport kernel configIface
        ((run fuel configIface notifyScript overrides board).exec oracle []).events := by
  intro claim
  have stays := claim (kernelWith "lan0" 500) 1 "lan0.500" none {} ⟨2000, 3⟩ (assigning 500)
  have deleted : (((run 1 "lan0.500" none {} ⟨2000, 3⟩).exec (assigning 500)
      []).events.map Event.op).contains (.deleteVlan "lan0" 500) = true := by decide +kernel
  rw [List.contains_iff_mem, List.mem_map] at deleted
  obtain ⟨event, member, equal⟩ := deleted
  have inRange : IsTransportVlan 500 := stays.ids event member 500 (by rw [equal]; rfl)
  exact absurd inRange.1 (by decide)

end Daemon

end RbctlDsl.Dsl
