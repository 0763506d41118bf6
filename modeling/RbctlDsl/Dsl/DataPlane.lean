import RbctlDsl.Dsl.LineWatch
import RbctlDsl.Dsl.ReloadConvergence
import RbctlDsl.Dsl.TransportVlan
import RbctlDsl.Proto.Descriptor

/-!
# The data plane

The link of the board and the transport interface of the host.  The daemon sets both up once,
before the worker is there.  A reload only takes the line down and up, so both stay those of the
configuration that the daemon started with.
-/

namespace RbctlDsl.Dsl

open RbctlDsl.Lib RbctlDsl.Proto

/-- VPI, VCI, encapsulation and link type. -/
abbrev Pvc := UInt8 × UInt16 × AtmEncap × AtmLinkType

def pvcOfParams (params : AtmLinkParams) : Pvc :=
  (params.vpi, params.vci, params.encap, params.linkType)

/-- The PVC of the ATM section, which has defaults. -/
def DslConfig.pvc (cfg : DslConfig) : Pvc :=
  let a := cfg.atm.getD ⟨8, 35, .llc, .eoa, .ubr, 0⟩
  (a.vpi, a.vci, a.encap, a.linkType)

/-- A link-add request. -/
structure LinkAdd where
  subtype : UInt8
  payload : Bytes
  deriving DecidableEq

/-- The link is the one of a configuration. -/
def LinkAdd.Adds (add : LinkAdd) (cfg : DslConfig) : Prop :=
  match cfg.xferMode with
  | .atm => add.subtype = 5 ∧ ∃ params, decodeAtmLink add.payload.tail = some (.atmLinkAdd params) ∧
      pvcOfParams params = cfg.pvc ∧ params.vlanId = Daemon.transportVlan cfg
  | .ptm => add.subtype = 15 ∧ ∃ tagEnable tagVid tagPri, decodePtmLink add.payload.tail =
      some (.ptmLinkAdd tagEnable tagVid tagPri (Daemon.transportVlan cfg))

/-- The link-add that a reply acknowledges. -/
def ackedLink (acks : UInt8 → Bytes → Bool) (subtype : UInt8) (payload : Bytes) :
    Except BoardError Bytes → Option LinkAdd
  | .ok reply =>
    if (subtype = 5 ∨ subtype = 15) ∧ acks subtype reply then some ⟨subtype, payload⟩ else none
  | .error _ => none

theorem ackedLink_eq_none {acks : UInt8 → Bytes → Bool} {subtype : UInt8} {payload : Bytes}
    (notAtm : subtype ≠ 5) (notPtm : subtype ≠ 15) (reply : Except BoardError Bytes) :
    ackedLink acks subtype payload reply = none := by
  cases reply with
  | error error => rfl
  | ok reply => exact if_neg fun both => both.1.elim notAtm notPtm

theorem eq_of_ackedLink {acks : UInt8 → Bytes → Bool} {subtype : UInt8} {payload : Bytes}
    {reply : Except BoardError Bytes} {add : LinkAdd}
    (acked : ackedLink acks subtype payload reply = some add) : add = ⟨subtype, payload⟩ := by
  cases reply with
  | error error => cases acked
  | ok reply =>
      rw [ackedLink] at acked
      split at acked
      · exact (Option.some.inj acked).symm
      · cases acked

namespace BoardWorker

def ackedLink? (acks : UInt8 → Bytes → Bool) : Event workerCalls → Option LinkAdd
  | ⟨.request _ subtype payload, reply⟩ => ackedLink acks subtype payload reply
  | _ => none

/-- The worker adds no link. -/
def SparesLink : WorkerOp → Prop
  | .request _ subtype _ => subtype ≠ 5 ∧ subtype ≠ 15
  | _ => True

section Worker

variable {oracle : Oracle workerCalls} {history : History workerCalls} {worker : BoardWorker}
  {newCfg : DslConfig}

theorem ackedLink?_of_spares {acks : UInt8 → Bytes → Bool} {event : Event workerCalls}
    (spares : SparesLink event.op) : ackedLink? acks event = none := by
  obtain ⟨op, answer⟩ := event
  cases op with
  | request retries subtype payload => exact ackedLink_eq_none spares.1 spares.2 answer
  | _ => rfl

theorem sparesLink_of_permits {watch : LineWatch} {op : WorkerOp} (permitted : watch.Permits op) :
    SparesLink op := by
  cases op with
  | request retries subtype payload =>
      rcases permitted with rfl | rfl | rfl | rfl <;> constructor <;> decide
  | _ => trivial

/-- No link is added up to a head, nor in a reload. -/
theorem sparesLink_reload {fuel : Nat} {first : BoardWorker}
    (head : Head oracle (turn fuel) [] () first history () worker)
    (reloads : Reloads oracle history worker newCfg) :
    ∀ event ∈ reloadRead history ++ (reloadRun oracle history worker).events,
      SparesLink event.op := by
  have up : ∀ event ∈ history, SparesLink event.op :=
    along_iff_forall_mem.mp ((permits_head head).mono fun _ _ => sparesLink_of_permits)
  have handled : ∀ event ∈ (reloadRun oracle history worker).events, SparesLink event.op := by
    by_cases changed : configChanged worker.cfg newCfg = true
    · obtain ⟨down, up, events⟩ := reloadRun_changed reloads changed
      rw [events]
      simp [SparesLink]
    · rw [reloadRun_unchanged reloads (Bool.eq_false_iff.mpr changed)]
      simp [SparesLink]
  intro event member
  rcases List.mem_append.mp member with read | later
  · simp only [reloadRead, List.mem_append, List.mem_singleton] at read
    rcases read with (earlier | rfl) | rfl
    · exact up event earlier
    · trivial
    · trivial
  · exact handled event later

end Worker

end BoardWorker

namespace Daemon

def ackedLink? (acks : UInt8 → Bytes → Bool) : Event daemonCalls → Option LinkAdd
  | ⟨.request _ subtype payload, reply⟩ => ackedLink acks subtype payload reply
  | _ => none

/-- The last link-add that the board has acknowledged.  The worker makes requests after the
daemon only. -/
def lastLink (acks : UInt8 → Bytes → Bool) (main : History daemonCalls)
    (worker : History workerCalls) : Option LinkAdd :=
  (main.filterMap (ackedLink? acks) ++
    worker.filterMap (BoardWorker.ackedLink? acks)).getLast?

def hostVlanAfter (vlan : Option UInt16) : Event daemonCalls → Option UInt16
  | ⟨.createVlan _ vlanId, .ok ()⟩ => some vlanId
  | ⟨.deleteVlan .., _⟩ => none
  | _ => vlan

/-- The VLAN id of the transport interface. -/
def hostVlan (main : History daemonCalls) : Option UInt16 := main.foldl hostVlanAfter none

/-- The link and the interface are those of a configuration. -/
structure FollowsConfig (acks : UInt8 → Bytes → Bool) (main : History daemonCalls)
    (worker : History workerCalls) (cfg : DslConfig) : Prop where
  link : ∃ add, lastLink acks main worker = some add ∧ add.Adds cfg
  host : hostVlan main = some (transportVlan cfg)

/-- The two configurations have the same link and the same interface. -/
structure SamePlane (old new : DslConfig) : Prop where
  xferMode : new.xferMode = old.xferMode
  transportVlanBase : new.transportVlanBase = old.transportVlanBase
  pvc : old.xferMode = .atm → new.pvc = old.pvc

/-- The link and the interface have come up as the configuration says, and are still there. -/
structure PlaneStarted (acks : UInt8 → Bytes → Bool) (main : History daemonCalls)
    (cfg : DslConfig) : Prop where
  linkAdded : ∃ event ∈ main, (ackedLink? acks event).isSome
  assigned : ∀ event ∈ main, ∀ vlanId, assigned? event = some vlanId → vlanId = transportVlan cfg
  created : ∃ parent vlanId, (⟨.createVlan parent vlanId, .ok ()⟩ : Event daemonCalls) ∈ main
  kept : ∀ event ∈ main, ∀ parent vlanId, event.op ≠ .deleteVlan parent vlanId

/-! ## The link of a configuration -/

section Link

variable {cfg newCfg : DslConfig}

theorem transportVlan_eq_iff :
    transportVlan newCfg = transportVlan cfg ↔
      newCfg.transportVlanBase = cfg.transportVlanBase := by
  rw [transportVlan, transportVlan, UInt16.add_left_inj, UInt8.toUInt16_inj]

theorem adds_ptm (ptm : newCfg.xferMode = .ptm) (vlanId : UInt16) :
    (LinkAdd.mk 15 (0x0F :: packPtmLink 0 0 0 vlanId)).Adds newCfg ↔
      vlanId = transportVlan newCfg := by
  simp only [LinkAdd.Adds, ptm, List.tail_cons, decodePtmLink_packPtmLink, Option.some.injEq,
    ConfigCommand.ptmLinkAdd.injEq, true_and]
  constructor
  · rintro ⟨_, _, _, _, _, _, same⟩
    exact same
  · intro same
    exact ⟨0, 0, 0, rfl, rfl, rfl, same⟩

theorem adds_atm (atm : newCfg.xferMode = .atm) (vlanId : UInt16) :
    (LinkAdd.mk 5 (0x05 :: packAtmLink (atmParams cfg.atm vlanId))).Adds newCfg ↔
      newCfg.pvc = cfg.pvc ∧ vlanId = transportVlan newCfg := by
  simp only [LinkAdd.Adds, atm, List.tail_cons, decodeAtmLink_packAtmLink,
    ConfigCommand.canonical, Option.some.injEq, ConfigCommand.atmLinkAdd.injEq, true_and]
  constructor
  · rintro ⟨_, rfl, same, vlan⟩
    exact ⟨same.symm, vlan⟩
  · rintro ⟨same, vlan⟩
    exact ⟨_, rfl, same.symm, vlan⟩

/-- The link-add that the daemon sends for a configuration is that of every configuration with
the same link. -/
theorem adds_iff :
    (LinkAdd.mk (linkOpcode cfg.xferMode) (linkPayload cfg)).Adds newCfg ↔
      SamePlane cfg newCfg := by
  cases mode : cfg.xferMode with
  | ptm =>
      cases newMode : newCfg.xferMode with
      | atm =>
          apply iff_of_false
          · intro adds
            simp [LinkAdd.Adds, newMode, linkOpcode] at adds
          · intro same
            cases newMode.symm.trans (same.xferMode.trans mode)
      | ptm =>
          rw [linkPayload_ptm mode, linkOpcode, adds_ptm newMode, eq_comm, transportVlan_eq_iff]
          constructor
          · intro base
            exact ⟨newMode.trans mode.symm, base, fun atm => by cases mode.symm.trans atm⟩
          · exact SamePlane.transportVlanBase
  | atm =>
      cases newMode : newCfg.xferMode with
      | ptm =>
          apply iff_of_false
          · intro adds
            simp [LinkAdd.Adds, newMode, linkOpcode] at adds
          · intro same
            cases newMode.symm.trans (same.xferMode.trans mode)
      | atm =>
          rw [linkPayload_atm mode, linkOpcode, adds_atm newMode,
            eq_comm (b := transportVlan newCfg), transportVlan_eq_iff]
          constructor
          · rintro ⟨pvc, base⟩
            exact ⟨newMode.trans mode.symm, base, fun _ => pvc⟩
          · intro same
            exact ⟨same.pvc mode, same.transportVlanBase⟩

end Link

/-! ## What happens outside of the link-add -/

section Events

variable {acks : UInt8 → Bytes → Bool} {cfg : DslConfig} {event : Event daemonCalls}
  {events : History daemonCalls} {vlan : Option UInt16} {vlanId : UInt16}

theorem ackedLink?_eq_none (other : SetUpOp event.op ∨ NoRequest event.op) :
    ackedLink? acks event = none := by
  obtain ⟨op, answer⟩ := event
  cases op with
  | request retries subtype payload =>
      cases other with
      | inr never => cases never
      | inl setsUp =>
          obtain ⟨rfl, _⟩ := setsUp
          exact ackedLink_eq_none (by decide) (by decide) answer
  | _ => rfl

theorem hostVlanAfter_setUp (setsUp : SetUpOp event.op) : hostVlanAfter vlan event = vlan := by
  obtain ⟨op, answer⟩ := event
  cases op with
  | createVlan | deleteVlan => cases setsUp
  | _ => rfl

theorem foldl_hostVlanAfter_setUp (setsUp : ∀ event ∈ events, SetUpOp event.op) :
    events.foldl hostVlanAfter vlan = vlan := by
  induction events with
  | nil => rfl
  | cons event events ih =>
      obtain ⟨here, later⟩ := List.forall_mem_cons.mp setsUp
      rw [List.foldl_cons, hostVlanAfter_setUp here]
      exact ih later

/-- After its creation, the interface is kept or deleted. -/
theorem hostVlanAfter_finish (finishes : FinishOp cfg event.op) :
    hostVlanAfter vlan event = some vlanId ↔
      vlan = some vlanId ∧ ∀ parent vlanId, event.op ≠ .deleteVlan parent vlanId := by
  obtain ⟨op, answer⟩ := event
  cases op with
  | request | createVlan => cases finishes
  | deleteVlan parent deleted =>
      exact iff_of_false nofun fun kept => kept.2 parent deleted rfl
  | _ => exact ⟨fun same => ⟨same, nofun⟩, And.left⟩

theorem foldl_hostVlanAfter_finish (finishes : ∀ event ∈ events, FinishOp cfg event.op) :
    events.foldl hostVlanAfter vlan = some vlanId ↔
      vlan = some vlanId ∧
        ∀ event ∈ events, ∀ parent vlanId, event.op ≠ .deleteVlan parent vlanId := by
  induction events generalizing vlan with
  | nil => simp
  | cons event events ih =>
      obtain ⟨here, later⟩ := List.forall_mem_cons.mp finishes
      rw [List.foldl_cons, ih later, hostVlanAfter_finish here, List.forall_mem_cons, and_assoc]

end Events

/-! ## The start -/

/-- What the daemon has done once the worker is there. -/
structure Started (parent : String) (cfg : DslConfig) where
  board : Settings
  before : History daemonCalls
  reply : Except BoardError Bytes
  created : Except String Unit
  after : History daemonCalls
  setsUp : ∀ event ∈ before, SetUpOp event.op
  finishes : ∀ event ∈ after, FinishOp cfg event.op

namespace Started

variable {parent : String} {cfg : DslConfig} (start : Started parent cfg)

def link : Event daemonCalls := linkAdd cfg start.board start.reply

def vlan : UInt16 := vlanAfter cfg start.board start.reply

def creation : Event daemonCalls := ⟨.createVlan parent start.vlan, start.created⟩

def events : History daemonCalls := start.before ++ start.link :: start.creation :: start.after

/-- What happens only in the link-add. -/
theorem exists_mem_link {holds : Event daemonCalls → Prop}
    (elsewhere : ∀ event, SetUpOp event.op ∨ NoRequest event.op → ¬ holds event) :
    (∃ event ∈ start.events, holds event) ↔ holds start.link := by
  constructor
  · rintro ⟨event, member, here⟩
    simp only [events, List.mem_append, List.mem_cons] at member
    rcases member with first | rfl | rfl | rest
    · exact absurd here (elsewhere _ (.inl (start.setsUp _ first)))
    · exact here
    · exact absurd here (elsewhere _ (.inr trivial))
    · exact absurd here (elsewhere _ (.inr (start.finishes _ rest).noRequest))
  · intro here
    exact ⟨_, List.mem_append_right _ (List.mem_cons_self ..), here⟩

theorem lastLink_events {acks : UInt8 → Bytes → Bool} {worker : History workerCalls}
    (spared : ∀ event ∈ worker, BoardWorker.SparesLink event.op) :
    lastLink acks start.events worker = ackedLink? acks start.link := by
  have first : start.before.filterMap (ackedLink? acks) = [] :=
    List.filterMap_eq_nil_iff.mpr fun event member =>
      ackedLink?_eq_none (.inl (start.setsUp event member))
  have last : start.after.filterMap (ackedLink? acks) = [] :=
    List.filterMap_eq_nil_iff.mpr fun event member =>
      ackedLink?_eq_none (.inr (start.finishes event member).noRequest)
  have creation : ackedLink? acks start.creation = none := rfl
  have none : worker.filterMap (BoardWorker.ackedLink? acks) = [] :=
    List.filterMap_eq_nil_iff.mpr fun event member =>
      BoardWorker.ackedLink?_of_spares (spared event member)
  rw [lastLink, none, List.append_nil, events, List.filterMap_append, first, List.nil_append,
    List.filterMap_cons, List.filterMap_cons, creation, last]
  cases ackedLink? acks start.link with
  | none => rfl
  | some add => rfl

theorem created_iff :
    (∃ parent vlanId, (⟨.createVlan parent vlanId, .ok ()⟩ : Event daemonCalls) ∈ start.events) ↔
      start.created = .ok () := by
  constructor
  · rintro ⟨_, _, member⟩
    simp only [events, List.mem_append, List.mem_cons] at member
    rcases member with first | equal | equal | rest
    · exact (start.setsUp _ first).elim
    · cases equal
    · injection equal with _ answer
      exact answer.symm
    · exact (start.finishes _ rest).elim
  · intro created
    refine ⟨parent, start.vlan, List.mem_append_right _ (List.mem_cons_of_mem _ ?_)⟩
    rw [creation, created]
    exact List.mem_cons_self ..

theorem kept_iff :
    (∀ event ∈ start.events, ∀ parent vlanId, event.op ≠ .deleteVlan parent vlanId) ↔
      ∀ event ∈ start.after, ∀ parent vlanId, event.op ≠ .deleteVlan parent vlanId := by
  constructor
  · intro kept event member
    exact kept event (List.mem_append_right _ (.tail _ (.tail _ member)))
  · intro kept event member parent vlanId deleted
    simp only [events, List.mem_append, List.mem_cons] at member
    rcases member with first | rfl | rfl | rest
    · have setsUp := start.setsUp _ first
      rw [deleted] at setsUp
      cases setsUp
    · cases deleted
    · cases deleted
    · exact kept _ rest _ _ deleted

theorem hostVlan_events {vlanId : UInt16} :
    hostVlan start.events = some vlanId ↔ start.created = .ok () ∧ start.vlan = vlanId ∧
      ∀ event ∈ start.events, ∀ parent vlanId, event.op ≠ .deleteVlan parent vlanId := by
  have added : hostVlanAfter none start.link = none := rfl
  rw [hostVlan, events, List.foldl_append, foldl_hostVlanAfter_setUp start.setsUp,
    List.foldl_cons, List.foldl_cons, added, foldl_hostVlanAfter_finish start.finishes, ← kept_iff,
    ← and_assoc]
  refine and_congr_left fun _ => ?_
  rw [creation]
  cases start.created with
  | error error => exact iff_of_false nofun fun both => nomatch both.1
  | ok created => simp [hostVlanAfter]

theorem assigned_iff :
    (∀ event ∈ start.events, ∀ vlanId, assigned? event = some vlanId →
      vlanId = transportVlan cfg) ↔ start.vlan = transportVlan cfg := by
  have same (vlanId : UInt16) : (∃ event ∈ start.events, assigned? event = some vlanId) ↔
      assigned? start.link = some vlanId :=
    start.exists_mem_link fun event other assigned => by
      cases (assigned?_eq_none other).symm.trans assigned
  constructor
  · intro each
    rw [vlan, vlanAfter]
    cases assigned : assigned? (linkAdd cfg start.board start.reply) with
    | none => rfl
    | some vlanId =>
        obtain ⟨event, member, assigns⟩ := (same vlanId).mpr assigned
        exact each event member vlanId assigns
  · intro equal event member vlanId assigned
    have assigns := (same vlanId).mp ⟨event, member, assigned⟩
    rw [← equal, vlan, vlanAfter]
    rw [link] at assigns
    rw [assigns, Option.getD_some]

end Started

section Start

variable {fuel : Nat} {configIface : String} {notifyScript : Option String}
  {overrides : CliOverrides} {board : Settings} {oracle : Oracle daemonCalls}
  {main : History daemonCalls} {worker : BoardWorker}

/-- From the data link on: the link-add, the interface, and what has nothing to do with them. -/
theorem events_operate (oracle : Oracle daemonCalls) (fuel : Nat) (configIface : String)
    (notifyScript : Option String) (overrides : CliOverrides) (cfg : DslConfig) (board : Settings)
    (history : History daemonCalls) :
    ∃ reply created rest,
      ((operate fuel configIface notifyScript overrides cfg board).exec oracle history).events =
        linkAdd cfg board reply ::
          ⟨.createVlan (parentIface configIface) (vlanAfter cfg board reply), created⟩ :: rest ∧
      ∀ event ∈ rest, FinishOp cfg event.op := by
  rw [operate_apply, Program.exec_perform, Program.exec_perform]
  exact ⟨_, _, _, rfl, (keeps_finish _ _).allowed_of_mem oracle⟩

/-- Once the worker is there, the link-add and the interface of its configuration are past. -/
theorem exists_started
    (early : main <+: ((run fuel configIface notifyScript overrides board).exec oracle []).events)
    (spawned : ⟨.spawnWorker worker, ()⟩ ∈ main) :
    ∃ start : Started (parentIface configIface) worker.cfg, main = start.events := by
  have prepared : Safe (onlyOps SetUpOp)
      (fun _ result => ∀ cfg, result.1 = .ok cfg → Prepared cfg)
      (setUp configIface overrides board) [] := safe_setUp configIface
  have setsUp := prepared.allowed_of_mem oracle
  -- the worker is not spawned in the set-up
  have later : ¬ main <+: ((setUp configIface overrides board).exec oracle []).events :=
    fun inSetUp => setsUp _ (inSetUp.mem spawned)
  rw [run, Method.bind_apply, Program.exec_bind] at early
  split at early
  · next result returned =>
      obtain ⟨result, after⟩ := result
      cases result with
      | error code =>
          rw [Method.resume_error, Program.exec_pure, List.append_nil] at early
          exact absurd early later
      | ok cfg =>
          obtain ⟨reply, created, rest, events, finishes⟩ :=
            events_operate oracle fuel configIface notifyScript overrides cfg after
              ([] ++ ((setUp configIface overrides board).exec oracle []).events)
          rw [Method.resume_ok, events] at early
          obtain ⟨undone, whole⟩ := early
          rcases List.append_eq_append_iff.mp whole with ⟨more, inSetUp, _⟩ | ⟨done, rfl, onward⟩
          · exact absurd ⟨more, inSetUp.symm⟩ later
          · have inDone := (List.mem_append.mp spawned).resolve_left fun first => setsUp _ first
            rcases done with _ | ⟨link, _ | ⟨creation, served⟩⟩
            · cases inDone
            · simp only [List.cons_append, List.cons.injEq] at onward
              rw [← onward.1] at inDone
              cases List.mem_singleton.mp inDone
            · simp only [List.cons_append, List.cons.injEq] at onward
              obtain ⟨rfl, rfl, rfl⟩ := onward
              have inServed : ⟨.spawnWorker worker, ()⟩ ∈ served := by
                simpa [linkAdd] using inDone
              have finishes : ∀ event ∈ served, FinishOp cfg event.op := fun event member =>
                finishes event (List.mem_append_left _ member)
              obtain rfl : worker.cfg = cfg := finishes _ inServed
              exact ⟨⟨after, _, reply, created, served, setsUp, finishes⟩, rfl⟩
  · exact absurd early later
  · exact absurd early later

end Start

/-! ## After a reload -/

/-- A daemon that has started with the default configuration. -/
def startedMain : History daemonCalls :=
  (((run 1 "lan0.500" none {} ⟨2000, 3⟩).exec (assigning 2000) []).events).take 10

theorem startedMain_early :
    startedMain <+: ((run 1 "lan0.500" none {} ⟨2000, 3⟩).exec (assigning 2000) []).events :=
  List.take_prefix _ _

theorem spawned_startedMain : ⟨.spawnWorker BoardWorker.freshWorker, ()⟩ ∈ startedMain :=
  List.mem_of_getElem? (i := 9) rfl

/-- Every request of the daemon is acknowledged. -/
def AllAcked (acks : UInt8 → Bytes → Bool) (events : History daemonCalls) : Prop :=
  ∀ retries subtype payload reply,
    (⟨.request retries subtype payload, reply⟩ : Event daemonCalls) ∈ events →
      ∃ bytes, reply = .ok bytes ∧ acks subtype bytes = true

end Daemon

end RbctlDsl.Dsl
