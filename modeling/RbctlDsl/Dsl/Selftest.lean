import RbctlDsl.Dsl.HostLinks
import RbctlDsl.Lib.Text

/-!
# The selftest

`selftest.rs`: the tests of the link, the socket, the VLAN life cycle, the board, and the
dependencies.  What the tests say is only logged, and left out where they pass.  Below them are
the files of the system, its interfaces, and the board.
-/

namespace RbctlDsl.Dsl

open RbctlDsl.Lib RbctlDsl.Proto

inductive SelftestOp where
  | readFile (path : String)
  | link (op : RtnlOp)
  | setDown (name : String)
  | ifNametoindex (name : String)
  | openSocket (iface : String) (ethertype : UInt16)
  | setSocketTimeout (millis : Nat)
  | request (retries subtype : UInt8) (payload : Bytes)
  | uciNew
  | uciGet (key : String)
  | sleep (millis : Nat)
  deriving DecidableEq, Repr

abbrev selftestCalls : Signature where
  Op := SelftestOp
  Answer
    | .readFile _ | .uciGet _ => Except String String
    | .link _ | .setDown _ => Except OsError Unit
    | .ifNametoindex _ => UInt32
    | .openSocket .. | .setSocketTimeout _ | .uciNew => Except String Unit
    | .request .. => Except BoardError Bytes
    | .sleep _ => Unit

structure Selftest where
  configIface : String
  parent : String
  pass : Nat
  fail : Nat
  deriving DecidableEq, Repr

namespace Selftest

/-- A test, whose error is the text of the failure.  It only borrows the counters. -/
abbrev Test (α : Type) := Method selftestCalls Selftest String α

abbrev onSystem {ε : Type} (op : selftestCalls.Op) :
    Method selftestCalls Selftest ε (selftestCalls.Answer op) := Method.perform op

/-- What is before and after the last `sep`. -/
def rsplitOnce (sep : Char) (s : String) : Option (String × String) :=
  match s.toList.reverse.dropWhile (· ≠ sep) with
  | [] => none
  | _ :: before =>
    some (.ofList before.reverse, .ofList (s.toList.reverse.takeWhile (· ≠ sep)).reverse)

def new (configIface : String) : Selftest where
  configIface
  parent := ((rsplitOnce '.' configIface).map Prod.fst).getD configIface
  pass := 0
  fail := 0

/-- Stop with a text where the system reports an error. -/
def orFail (text : String → String) : Except OsError Unit → Test Unit
  | .ok () => pure ()
  | .error e => Method.fail (text e.text)

def hasCarrier {ε : Type} (iface : String) : Method selftestCalls Selftest ε Bool := do
  let text ← onSystem (.readFile s!"/sys/class/net/{iface}/carrier")
  return text.toOption.bind (fun s => parseUnsigned 4294967296 (trim s)) == some 1

def bringUp (iface : String) : Test Unit := do
  let text ← onSystem (.readFile s!"/sys/class/net/{iface}/operstate")
  if trim (text.toOption.getD "") = "up" then
    pure ()
  else do
    orFail (fun e => s!"rtnl: {e}") (← onSystem (.link .new))
    orFail (fun e => s!"set_up {iface}: {e}") (← onSystem (.link (.setUp iface)))
    onSystem (.sleep 200)

def testLinkUp (st : Selftest) : Test Unit := do
  (if st.parent ≠ st.configIface then bringUp st.parent else pure ())
  bringUp st.configIface
  if ← hasCarrier st.configIface then
    pure ()
  else
    Method.fail s!"{st.configIface} is up but has no carrier"

def testSocket (st : Selftest) : Test Unit := do
  Method.ofExcept (← onSystem (.openSocket st.configIface 0x88B5))
  Method.ofExcept (← onSystem (.setSocketTimeout 500))

def ifindex (name : String) : Test UInt32 := do
  let idx ← onSystem (.ifNametoindex name)
  if idx = 0 then Method.fail s!"if_nametoindex({name}) failed" else pure idx

def testVid : UInt16 := 2001

/-- What is tried between the creation and the deletion. -/
def upAndDown (parent name : String) : Test Unit := do
  let _ ← ifindex parent
  let vlanIdx ← ifindex name
  if vlanIdx = 0 then
    Method.fail s!"{name} was not created"
  else do
    orFail (fun e => s!"set_up: {e}") (← onSystem (.link (.setUp name)))
    orFail (fun e => s!"set_down: {e}") (← onSystem (.setDown name))

def testVlan (st : Selftest) : Test Unit := do
  orFail id (← onSystem (.link .new))
  let name := vlanName st.parent testVid
  let _ ← onSystem (.link (.del name))
  orFail (fun e => s!"add_vlan: {e}") (← onSystem (.link (.addVlan st.parent testVid)))
  let result ← Method.attempt (upAndDown st.parent name)
  let _ ← onSystem (.link (.del name))
  match result with
  | .error e => Method.fail e
  | .ok () =>
    let idx ← Method.attempt (ifindex name)
    if (idx.toOption.getD 0 : UInt32) ≠ 0 then
      Method.fail s!"{name} was not deleted"
    else
      pure ()

/-- The board is used with the timeout and the retries of the daemon. -/
def callBoard {α : Type} (method : Typed α) : Test (Except BoardError α) :=
  callTyped (fun _ => ⟨2000, 3⟩) (fun _ st => st)
    (passOn (fun retries subtype payload => onSystem (.request retries subtype payload))
      fun _ => pure ()) method

/-- The parameters of the ATM link that the board is asked for. -/
def linkParams : AtmLinkParams :=
  { vpi := 8, vci := 35, encap := .llc, linkType := .eoa, qos := .ubr, pcr := 1000 }

/-- Every answer will do. -/
def testBoard (st : Selftest) : Test Unit := do
  Method.ofExcept (← onSystem (.openSocket st.configIface 0x88B5))
  let _ ← onSystem (.setSocketTimeout 2000)
  let _ ← callBoard getLineObj
  let _ ← callBoard getChannelStats
  let _ ← callBoard (lineConfigUp .vdsl2 .b .thirtyA true true)
  let _ ← callBoard (atmLinkAdd linkParams)

def testUci : Test Unit := do
  Method.ofExcept (← onSystem .uciNew)
  let _ ← onSystem (.uciGet "network.@device[0].name")

def testUloop : Test Unit := pure ()

/-- Count a result. -/
def record : Except String Unit → Method selftestCalls Selftest Empty Unit
  | .ok () => Method.update fun st => { st with pass := st.pass + 1 }
  | .error _ => Method.update fun st => { st with fail := st.fail + 1 }

def recordTest (test : Test Unit) : Method selftestCalls Selftest Empty Unit := do
  record (← Method.attempt test)

/-- The tests that need a carrier. -/
def recordWired (st : Selftest) : Method selftestCalls Selftest Empty Unit := do
  recordTest (testSocket st)
  recordTest (testVlan st)
  recordTest (testBoard st)

def execute : Method selftestCalls Selftest Empty Nat := do
  let st ← Method.read
  recordTest (testLinkUp st)
  let carrier ← hasCarrier st.configIface
  (if carrier then recordWired st else pure ())
  recordTest testUci
  recordTest testUloop
  let st ← Method.read
  return if st.fail > 0 then 1 else 0

/-- The exit code. -/
def run (configIface : String) : Program selftestCalls (Except Empty Nat × Selftest) :=
  execute (new configIface)

end Selftest

end RbctlDsl.Dsl
