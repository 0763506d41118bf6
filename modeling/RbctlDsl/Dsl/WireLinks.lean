import RbctlDsl.Dsl.HostLinks
import RbctlDsl.Lib.WorldInterp
import RbctlDsl.Netlink.Requests

/-!
# The interfaces of the host on the wire

`RtnlLink` as it is: the index of an interface is looked up, a message is built and sent, and the
kernel acts on what the message says.  What has been shown of a program on the requests of
`RtnlLink` holds of it on the messages.
-/

namespace RbctlDsl.Dsl

open RbctlDsl.Lib RbctlDsl.Netlink HostLinks

/-! ## The calls -/

inductive WireOp where
  /-- `unl_rtnl_init`. -/
  | connect
  | ifNametoindex (name : String)
  /-- `nl_send_auto_complete` and `nl_wait_for_ack`. -/
  | send (msg : RtMsg)

abbrev wire : Signature where
  Op := WireOp
  Answer
    | .connect | .send _ => Except OsError Unit
    | .ifNametoindex _ => Except OsError Int32

abbrev onWire (op : wire.Op) : Method wire Unit Empty (wire.Answer op) := Method.perform op

/-- `ifindex`, and `RtnlLink::send` of the message that is built with the index. -/
def sendWith (osError : BuildError → OsError) (name : String)
    (message : Int32 → Except BuildError RtMsg) : Method wire Unit Empty (Except OsError Unit) := do
  match ← onWire (.ifNametoindex name) with
  | .error error => pure (.error error)
  | .ok idx =>
    match message idx with
    | .error error => pure (.error (osError error))
    | .ok msg => onWire (.send msg)

/-- The methods of `RtnlLink`.  How an error of a message that is not built looks is a parameter. -/
def rtnlLink (lib : Rtnl) (osError : BuildError → OsError) : Handler rtnl wire Unit Empty
  | .new => onWire .connect
  | .addVlan parent vlanId =>
    sendWith osError parent fun idx => addVlanMsg lib (vlanName parent vlanId) idx vlanId
  | .setUp name => sendWith osError name (setUpMsg lib)
  | .del name => sendWith osError name (delMsg lib)

/-! ## The kernel -/

/-- The interfaces with their indexes, which tell those that are there apart. -/
structure Interfaces where
  links : HostLinks
  index : String → Int32
  distinct : ∀ first second, (links first).isSome = true → (links second).isSome = true →
    index first = index second → first = second

namespace Interfaces

/-- There is an interface with this index. -/
def Has (state : Interfaces) (name : String) (idx : Int32) : Prop :=
  (state.links name).isSome = true ∧ state.index name = idx

theorem Has.unique {state : Interfaces} {first second : String} {idx : Int32}
    (has : state.Has first idx) (has' : state.Has second idx) : first = second :=
  state.distinct first second has.1 has'.1 (has.2.trans has'.2.symm)

end Interfaces

/-- The name or the VLAN of a new interface is in use. -/
def InUse (links : HostLinks) (name parent : String) (vid : UInt16) : Prop :=
  (links name).isSome = true ∨
    ∃ other link, links other = some link ∧ link.vlan = some (parent, vid)

/-- What the kernel does on a request.  `RtnlLink` changes none of the flags but `IFF_UP`. -/
def Does (state after : Interfaces) : RtnlRequest → Prop
  | .addVlan name parentIdx vid =>
    ∃ parent, state.Has parent parentIdx ∧ ¬ InUse state.links name parent vid ∧
      after.links = Function.update state.links name (some ⟨some (parent, vid), false⟩)
  | .del idx => ∃ name, state.Has name idx ∧ Removed name state.links after.links
  | .setFlags idx flags change =>
    ∃ name, state.Has name idx ∧ (change = IFF_UP →
      Switched name (flags == IFF_UP) state.links after.links)
  | .addr .. | .route .. => after.links = state.links

/-- The documented reason for `EEXIST`. -/
def AlreadyThere (state : Interfaces) (request : RtnlRequest) : Prop :=
  ∃ name parent parentIdx vid, request = .addVlan name parentIdx vid ∧
    state.Has parent parentIdx ∧ InUse state.links name parent vid

/-- The kernel acts on the request that a message says, in any way on a message that says none, or
reports an error and changes nothing: a documented one, or one of its own.  It knows interfaces by
names that leave room for the id of a VLAN behind them. -/
def Wire (lib : Rtnl) (refuses : WireOp → Prop) : World wire Interfaces
  | state, ⟨.connect, .ok ()⟩, after => after = state
  | state, ⟨.connect, .error error⟩, after =>
    after = state ∧ error.code ≠ some eexist ∧ refuses .connect
  | state, ⟨.ifNametoindex name, .ok idx⟩, after =>
    after = state ∧ state.Has name idx ∧
      ∀ vlanId, (RtnlRequest.addVlan (vlanName name vlanId) idx vlanId).Named
  | state, ⟨.ifNametoindex name, .error error⟩, after =>
    after = state ∧ error.code ≠ some eexist ∧
      (state.links name = none ∨ refuses (.ifNametoindex name))
  | state, ⟨.send msg, .ok ()⟩, after => ∀ request, decode lib msg = some request →
    Does state after request
  | state, ⟨.send msg, .error error⟩, after => after = state ∧
    if error.code = some eexist then
      ∀ request, decode lib msg = some request → AlreadyThere state request
    else refuses (.send msg)

/-- One of the calls of a method is refused: by the kernel, or by the library where it builds the
message. -/
def RefusedWith (refuses : WireOp → Prop) (name : String)
    (message : Int32 → Except BuildError RtMsg) : Prop :=
  refuses (.ifNametoindex name) ∨ (∃ idx error, message idx = .error error) ∨
    ∃ idx msg, message idx = .ok msg ∧ refuses (.send msg)

def Refused (lib : Rtnl) (refuses : WireOp → Prop) : RtnlOp → Prop
  | .new => refuses .connect
  | .addVlan parent vlanId =>
    RefusedWith refuses parent fun idx => addVlanMsg lib (vlanName parent vlanId) idx vlanId
  | .setUp name => RefusedWith refuses name (setUpMsg lib)
  | .del name => RefusedWith refuses name (delMsg lib)

section Refinement

variable {lib : Rtnl} {refuses : WireOp → Prop} {osError : BuildError → OsError}

/-- A step of the kernel that is asked for an operation. -/
abbrev Steps (lib : Rtnl) (refuses : WireOp → Prop) (state after : Interfaces) (op : RtnlOp)
    (answer : Except OsError Unit) : Prop :=
  Kernel (Refused lib refuses) state.links ⟨op, answer⟩ after.links

/-- A message is sent with the index of its interface, and means the request. -/
theorem sendWith_meets (lawful : lib.Lawful) (keeps : lib.toLibnl.Keeps)
    (foreign : ∀ error, (osError error).code ≠ some eexist) {op : RtnlOp} {name : String}
    {message : Int32 → RtnlRequest} {state : Interfaces}
    (named : ∀ idx, (∀ vlanId, (RtnlRequest.addVlan (vlanName name vlanId) idx vlanId).Named) →
      (message idx).Named)
    (own : RefusedWith refuses name (fun idx => (message idx).build lib) → Refused lib refuses op)
    (absent : ∀ error, error.code ≠ some eexist → state.links name = none →
      Fails state.links op error)
    (does : ∀ idx after, state.Has name idx → Does state after (message idx) →
      state.links.Granted after.links op)
    (exist : ∀ idx error, state.Has name idx → AlreadyThere state (message idx) →
      error.code = some eexist → Fails state.links op error) :
    Meets (Wire lib refuses) (fun result after => ∃ answer, result.1 = .ok answer ∧
        Steps lib refuses state after op answer)
      (sendWith osError name (fun idx => (message idx).build lib) ()) state := by
  intro found after taken
  cases found with
  | error error =>
      obtain ⟨rfl, code, reason⟩ := taken
      rcases reason with missing | refused
      · exact ⟨_, rfl, rfl, .inl (absent error code missing)⟩
      · exact ⟨_, rfl, rfl, .inr ⟨own (.inl refused), code⟩⟩
  | ok idx =>
      obtain ⟨rfl, has, known⟩ := taken
      cases built : (message idx).build lib with
      | error error =>
          -- Nothing is sent, and the error is none that the kernel documents.
          simp only [Program.pure_bind, Method.resume_ok, built]
          exact ⟨_, rfl, rfl, .inr ⟨own (.inr (.inl ⟨idx, error, built⟩)), foreign error⟩⟩
      | ok msg =>
          have decoded := decode_build lawful keeps (named idx known) built
          simp only [Program.pure_bind, Method.resume_ok, built]
          intro answer later taken
          cases answer with
          | ok sent => exact ⟨_, rfl, does idx later has (taken _ decoded)⟩
          | error error =>
              obtain ⟨rfl, reason⟩ := taken
              split at reason
              · next code => exact ⟨_, rfl, rfl, .inl (exist idx error has (reason _ decoded) code)⟩
              · next code =>
                  exact ⟨_, rfl, rfl, .inr ⟨own (.inr (.inr ⟨idx, msg, built, reason⟩)), code⟩⟩

/-- Each method of `RtnlLink` is a step of the kernel that is asked for what the method is for. -/
theorem rtnlLink_meets (lawful : lib.Lawful) (keeps : lib.toLibnl.Keeps)
    (foreign : ∀ error, (osError error).code ≠ some eexist) (op : RtnlOp)
    (state : Interfaces) :
    Meets (Wire lib refuses) (fun result after => ∃ answer, result.1 = .ok answer ∧
      Steps lib refuses state after op answer) (rtnlLink lib osError op ()) state := by
  cases op with
  | new =>
      intro answer after taken
      cases answer with
      | ok connected =>
          obtain rfl := taken
          exact ⟨_, rfl, rfl⟩
      | error error =>
          obtain ⟨rfl, code, refused⟩ := taken
          exact ⟨_, rfl, rfl, .inr ⟨refused, code⟩⟩
  | addVlan parent vlanId =>
      refine @sendWith_meets lib refuses osError lawful keeps foreign (.addVlan parent vlanId)
        parent (fun idx => .addVlan (vlanName parent vlanId) idx vlanId) state
        (fun idx known => known vlanId) id (fun error code missing => (if_neg code).mpr missing)
        ?_ ?_
      · rintro idx after has ⟨other, has', free, made⟩
        obtain rfl := has.unique has'
        exact ⟨has.1, free, made⟩
      · rintro idx error has ⟨_, other, _, _, ⟨⟩, has', used⟩ code
        obtain rfl := has.unique has'
        exact (if_pos code).mpr used
  | setUp name =>
      refine @sendWith_meets lib refuses osError lawful keeps foreign (.setUp name) name
        (fun idx => .setFlags idx IFF_UP IFF_UP) state (fun _ _ => trivial) id
        (fun error code missing => missing) ?_ ?_
      · rintro idx after has ⟨other, has', switched⟩
        obtain rfl := has.unique has'
        exact switched rfl
      · rintro idx error has ⟨_, _, _, _, ⟨⟩, _⟩
  | del name =>
      refine @sendWith_meets lib refuses osError lawful keeps foreign (.del name) name
        (fun idx => .del idx) state (fun _ _ => trivial) id (fun error code missing => missing)
        ?_ ?_
      · rintro idx after has ⟨other, has', removed⟩
        obtain rfl := has.unique has'
        exact removed
      · rintro idx error has ⟨_, _, _, _, ⟨⟩, _⟩

/-- What holds of a program wherever the kernel answers its requests holds of it where they are
messages, which are built with the index of the interface and do what they say, as long as the
library refuses none of the attributes whose refusal `add_vlan` does not notice. -/
theorem wire_refines_kernel (lawful : lib.Lawful) (keeps : lib.toLibnl.Keeps)
    (foreign : ∀ error, (osError error).code ≠ some eexist) {α : Type}
    {post : α → HostLinks → Prop} {program : Program rtnl α} {state : Interfaces}
    (meets : Meets (Kernel (Refused lib refuses)) post program state.links) :
    Meets (Wire lib refuses)
      (fun result after => ∃ value, result.1 = .ok value ∧ post value after.links)
      (program.interp (rtnlLink lib osError) ()) state :=
  meets_interp (fun op state _ => rtnlLink_meets lawful keeps foreign op state) meets

end Refinement

/-- A host with one interface. -/
def lanOnly : HostLinks := fun name => if name = "lan0" then some ⟨none, true⟩ else none

theorem eq_of_lanOnly {name : String} (present : (lanOnly name).isSome = true) : name = "lan0" := by
  rw [lanOnly] at present
  split at present
  · assumption
  · cases present

def lanInterface : Interfaces where
  links := lanOnly
  index _ := 2
  distinct _ _ first second _ := (eq_of_lanOnly first).trans (eq_of_lanOnly second).symm

theorem wire_refines_kernel_lanInterface :
    Meets (Wire (.zeroPadding .big) fun _ => False)
      (fun result after => ∃ value, result.1 = .ok value ∧
        Ensured (vlanName "lan0" 2001) lanOnly value.1 after.links)
      ((createVlanIface "lan0" 2001 ()).interp
        (rtnlLink (.zeroPadding .big) fun _ => ⟨none, ""⟩) ()) lanInterface :=
  wire_refines_kernel (Rtnl.lawful_zeroPadding .big) (Rtnl.accepts_zeroPadding .big).1.keeps
    (fun _ same => by cases same) (createVlanIface_meets "lan0" 2001)

end RbctlDsl.Dsl
