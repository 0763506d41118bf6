import RbctlDsl.Dsl.LineWatch
import RbctlDsl.Dsl.Process

/-!
# The process and the line

The threads of the process, with the worker as the one that watches the line.
-/

namespace RbctlDsl.Dsl

open RbctlDsl.Lib RbctlDsl.Proto

namespace Process

open Threads Discipline Protocol

abbrev LinePhaseOf : ThreadId → Type
  | .main => MainPhase
  | .worker => LineWatch
  | .client _ => ClientPhase

def lineProtocolOf (notifyScript : Option String) :
    (i : ThreadId) → Protocol (callsOf i) (LinePhaseOf i)
  | .main => mainProtocol notifyScript
  | .worker => lineProtocol
  | .client stream => clientProtocol stream

def lineEndsOf : (i : ThreadId) → LinePhaseOf i → ResultOf i → Prop
  | .main, reached, result => ∀ code, result.1 = .ok code → reached = .waited
  | .worker, _, _ => True
  | .client _, _, _ => True

theorem line_follows_of_starts (notifyScript : Option String) (fuel : Nat) (i j : ThreadId)
    (event : Event (callsOf i)) (program : Program (callsOf j) (ResultOf j))
    (new : starts fuel i event = some ⟨j, program⟩) :
    (lineProtocolOf notifyScript j).Follows (lineEndsOf j) program
      (lineProtocolOf notifyScript j).initial := by
  cases i with
  | worker => cases new
  | client stream => cases new
  | main =>
      obtain ⟨op, answer⟩ := event
      cases op with
      | spawnWorker worker =>
          cases new
          exact BoardWorker.follows_run_line BoardWorker.lineInvariant_remembers fuel
            (BoardWorker.remembers_initial worker)
      | spawnFirmwareIpc path stream =>
          cases new
          exact (leads_handleFirmwareIpc fuel path stream ()).mono fun _ _ _ => trivial
      | _ => cases new

/-- Every thread follows its protocol, the worker that of the line. -/
def lineDiscipline (notifyScript : Option String) (fuel : Nat) :
    Discipline (meaning fuel) LinePhaseOf where
  protocol := lineProtocolOf notifyScript
  ends := lineEndsOf
  starts i _ event j program _ new := line_follows_of_starts notifyScript fuel i j event program new

theorem lineObeyed_launched (launch : Launch) :
    (lineDiscipline launch.notifyScript launch.fuel).Obeyed (launched launch) := by
  intro i thread there
  cases i with
  | worker | client => cases there
  | main =>
      cases there
      exact Daemon.leads_run launch.fuel launch.configIface _ [] rfl

/-- Where the main thread is. -/
def mainPhase (launch : Launch) (process : Process) : MainPhase :=
  (lineDiscipline launch.notifyScript launch.fuel).phase process .main

/-- What the worker has seen of the line. -/
def lineWatch (launch : Launch) (process : Process) : LineWatch :=
  (lineDiscipline launch.notifyScript launch.fuel).phase process .worker

end Process

end RbctlDsl.Dsl
