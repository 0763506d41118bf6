import RbctlDsl.Dsl.Selftest

/-!
# The selftest on its host

What a whole selftest leaves of the host's interfaces, and what it asks of the board.
-/

namespace RbctlDsl.Dsl

open RbctlDsl.Lib RbctlDsl.Proto HostLinks

namespace Selftest

/-- The host's interfaces below the selftest. -/
def systemWorld (refuses : RtnlOp → Prop) : World selftestCalls HostLinks
  | links, ⟨.link op, answer⟩, after => Kernel refuses links ⟨op, answer⟩ after
  | links, ⟨.setDown name, .ok ()⟩, after => Switched name false links after
  | links, ⟨.ifNametoindex name, index⟩, after => after = links ∧ (index = 0 ↔ links name = none)
  | links, _, after => after = links

/-- The interfaces that a selftest works on. -/
def touches (st : Selftest) : List String :=
  [st.parent, st.configIface, vlanName st.parent testVid]

/-- The creation of an interface has been tried. -/
def Tried (history : History selftestCalls) : Prop :=
  ∃ parent vlanId answer, (⟨.link (.addVlan parent vlanId), answer⟩ : Event selftestCalls) ∈ history

def request? : SelftestOp → Option (UInt8 × UInt8 × Bytes)
  | .request retries subtype payload => some (retries, subtype, payload)
  | _ => none

/-- The requests to the board, in their order. -/
def requestsOf (history : History selftestCalls) : List (UInt8 × UInt8 × Bytes) :=
  history.filterMap fun event => request? event.op

/-- The requests of the board test. -/
def boardRequests : List (UInt8 × UInt8 × Bytes) :=
  [(3, 2, [0x02]), (3, 4, [0x04]), (3, 1, 0x01 :: packDslLine .vdsl2 .b true true .thirtyA),
    (3, 5, 0x05 :: packAtmLink linkParams)]

/-- The system has shown a carrier on the interface. -/
def Carried (iface : String) (history : History selftestCalls) : Prop :=
  ∃ text, (⟨.readFile s!"/sys/class/net/{iface}/carrier", .ok text⟩ : Event selftestCalls) ∈
    history ∧ parseUnsigned 4294967296 (trim text) = some 1

/-- It has done so before anything was asked of the board. -/
def CarriedFirst (iface : String) (history : History selftestCalls) : Prop :=
  ∃ before, before <+: history ∧ Carried iface before ∧ requestsOf before = []

/-- The host's interfaces, and what the selftest has done. -/
abbrev Course := HostLinks × History selftestCalls

/-- A part of the selftest that works on these interfaces only, creates none, and asks nothing of
the board. -/
structure Goes (names : List String) (before after : Selftest × Course) : Prop where
  fail : before.1.fail ≤ after.1.fail
  beside : Beside names before.2.1 after.2.1
  grows : before.2.2 <+: after.2.2
  untried : Tried after.2.2 → Tried before.2.2
  requests : requestsOf after.2.2 = requestsOf before.2.2

instance goesRefl (names : List String) : Std.Refl (Goes names) :=
  ⟨fun _ => ⟨Nat.le_refl _, .refl _ _, List.prefix_refl _, id, rfl⟩⟩

instance goesTrans (names : List String) : IsTrans (Selftest × Course) (Goes names) :=
  ⟨fun _ _ _ first second =>
    ⟨Nat.le_trans first.fail second.fail, first.beside.trans second.beside,
      first.grows.trans second.grows, fun tried => first.untried (second.untried tried),
      second.requests.trans first.requests⟩⟩

/-- A method that is such a part. -/
abbrev Confined {ε α : Type} (refuses : RtnlOp → Prop) (names : List String)
    (method : Method selftestCalls Selftest ε α) : Prop :=
  Moves (withHistory (systemWorld refuses)) (Goes names) method

section Parts

variable {refuses : RtnlOp → Prop} {names : List String} {history : History selftestCalls}
  {event : Event selftestCalls}

theorem not_tried_snoc (other : ∀ parent vlanId, event.op ≠ .link (.addVlan parent vlanId))
    (tried : Tried (history ++ [event])) : Tried history := by
  obtain ⟨parent, vlanId, answer, member⟩ := tried
  rcases List.mem_append.mp member with before | here
  · exact ⟨parent, vlanId, answer, before⟩
  · rw [← List.mem_singleton.mp here] at other
    exact absurd rfl (other parent vlanId)

theorem requestsOf_snoc (history : History selftestCalls) (event : Event selftestCalls) :
    requestsOf (history ++ [event]) = requestsOf history ++ (request? event.op).toList := by
  rw [requestsOf, List.filterMap_append]
  cases asked : request? event.op with
  | none => simp [requestsOf, asked]
  | some request => simp [requestsOf, asked]

theorem requestsOf_snoc_silent (silent : request? event.op = none) :
    requestsOf (history ++ [event]) = requestsOf history := by
  rw [requestsOf_snoc, silent, Option.toList_none, List.append_nil]

/-- An operation that neither creates an interface nor asks anything of the board. -/
def IsConfined : SelftestOp → Prop
  | .link (.addVlan ..) | .request .. => False
  | _ => True

/-- An operation that moves the interfaces so is confined to them. -/
theorem confined_perform {ε : Type} {op : selftestCalls.Op} (isConfined : IsConfined op)
    (each : ∀ links answer after, systemWorld refuses links ⟨op, answer⟩ after →
      Beside names links after) :
    Confined refuses names (onSystem op : Method selftestCalls Selftest ε _) := by
  refine moves_perform ?_
  rintro receiver ⟨links, history⟩ answer ⟨after, later⟩ ⟨taken, rfl⟩
  refine ⟨Nat.le_refl _, each links answer after taken, List.prefix_append _ _,
    not_tried_snoc fun parent vlanId equal => ?_, requestsOf_snoc_silent ?_⟩
  · rw [show op = .link (.addVlan parent vlanId) from equal] at isConfined
    cases isConfined
  · cases op with
    | request => cases isConfined
    | _ => rfl

/-- An operation that does not touch the interfaces. -/
def IsIdle : SelftestOp → Prop
  | .link _ | .setDown _ | .request .. => False
  | _ => True

theorem confined_idle {ε : Type} {op : selftestCalls.Op} (idle : IsIdle op) :
    Confined refuses names (onSystem op : Method selftestCalls Selftest ε _) := by
  refine confined_perform ?_ fun links answer after taken => ?_
  · cases op with
    | link | request => cases idle
    | _ => trivial
  · have same : after = links := by
      cases op with
      | link | setDown | request => cases idle
      | ifNametoindex name => exact taken.1
      | _ => exact taken
    exact same ▸ .refl _ _

theorem confined_orFail (text : String → String) (answer : Except OsError Unit) :
    Confined refuses names (orFail text answer) := by
  cases answer with
  | ok done => exact moves_pure ()
  | error error => exact moves_fail _

theorem confined_new {ε : Type} :
    Confined refuses names (onSystem (.link .new) : Method selftestCalls Selftest ε _) :=
  confined_perform trivial fun _ _ _ taken => same_of_new taken ▸ .refl _ _

theorem confined_setUp {ε : Type} {name : String} (member : name ∈ names) :
    Confined refuses names (onSystem (.link (.setUp name)) : Method selftestCalls Selftest ε _) :=
  confined_perform trivial fun _ _ _ taken =>
    (beside_setUp taken).mono (List.cons_subset.mpr ⟨member, List.nil_subset _⟩)

theorem confined_setDown {ε : Type} {name : String} (member : name ∈ names) :
    Confined refuses names (onSystem (.setDown name) : Method selftestCalls Selftest ε _) := by
  refine confined_perform trivial fun links answer after taken => ?_
  cases answer with
  | error error => exact (show after = links from taken) ▸ .refl _ _
  | ok done =>
      exact (Switched.beside taken).mono (List.cons_subset.mpr ⟨member, List.nil_subset _⟩)

theorem confined_hasCarrier {ε : Type} (iface : String) :
    Confined refuses names (hasCarrier iface : Method selftestCalls Selftest ε Bool) :=
  moves_bind (confined_idle trivial) fun _ => moves_pure _

attribute [local irreducible] Moves in
theorem confined_bringUp {iface : String} (member : iface ∈ names) :
    Confined refuses names (bringUp iface) := by
  refine moves_bind (confined_idle trivial) fun text => moves_ite (moves_pure _) ?_
  refine moves_bind confined_new fun opened => moves_bind (confined_orFail _ _) fun _ => ?_
  refine moves_bind (confined_setUp member) fun raised => ?_
  exact moves_bind (confined_orFail _ _) fun _ => confined_idle trivial

attribute [local irreducible] Moves in
theorem confined_testLinkUp (st : Selftest) : Confined refuses st.touches (testLinkUp st) := by
  have parent : Confined refuses st.touches (bringUp st.parent) :=
    confined_bringUp (List.mem_cons_self ..)
  have management : Confined refuses st.touches (bringUp st.configIface) :=
    confined_bringUp (List.mem_cons_of_mem _ (List.mem_cons_self ..))
  refine moves_bind (moves_ite parent (moves_pure ())) fun _ => moves_bind management fun _ => ?_
  exact moves_bind (confined_hasCarrier _) fun carrier => moves_ite (moves_pure _) (moves_fail _)

theorem confined_testSocket (st : Selftest) : Confined refuses names (testSocket st) := by
  refine moves_bind (confined_idle trivial) fun opened => moves_bind (moves_ofExcept _) fun _ => ?_
  exact moves_bind (confined_idle trivial) fun set => moves_ofExcept _

theorem confined_ifindex (name : String) : Confined refuses names (ifindex name) :=
  moves_bind (confined_idle trivial) fun _ => moves_ite (moves_fail _) (moves_pure _)

theorem confined_upAndDown {parent name : String} (member : name ∈ names) :
    Confined refuses names (upAndDown parent name) := by
  refine moves_bind (confined_ifindex _) fun parentIdx => ?_
  refine moves_bind (confined_ifindex _) fun idx => moves_ite (moves_fail _) ?_
  refine moves_bind (confined_setUp member) fun raised => ?_
  refine moves_bind (confined_orFail _ _) fun _ => ?_
  exact moves_bind (confined_setDown member) fun lowered => confined_orFail _ _

theorem confined_testUci : Confined refuses names testUci := by
  refine moves_bind (confined_idle trivial) fun allocated => ?_
  refine moves_bind (moves_ofExcept _) fun _ => ?_
  exact moves_bind (confined_idle trivial) fun name => moves_pure _

theorem confined_record (result : Except String Unit) :
    Confined refuses names (record result) := by
  cases result with
  | ok passed =>
      exact moves_update fun st state => ⟨Nat.le_refl _, .refl _ _, List.prefix_refl _, id, rfl⟩
  | error error =>
      exact moves_update fun st state => ⟨Nat.le_succ _, .refl _ _, List.prefix_refl _, id, rfl⟩

theorem confined_recordTest {test : Test Unit} (confined : Confined refuses names test) :
    Confined refuses names (recordTest test) :=
  moves_bind (moves_attempt confined) fun result => confined_record result

/-! ## The VLAN test -/

/-- The VLAN test works on its own interface only, which is gone after it if it has passed, or if
the kernel does not refuse the deletion. -/
structure AfterVlan (refuses : RtnlOp → Prop) (name : String) (before : Course)
    (result : Except String Unit) (after : Course) : Prop where
  beside : Beside [name] before.1 after.1
  grows : before.2 <+: after.2
  requests : requestsOf after.2 = requestsOf before.2
  gone : Tried after.2 → result = .ok () ∨ ¬ refuses (.del name) → after.1 name = none

/-- The last check of the test. -/
theorem ifindex_meets {name : String} {st : Selftest} {state : Course}
    {next : Except String UInt32 → Test Unit} {post : Except String Unit × Selftest → Course → Prop}
    (each : ∀ index answer, (index.toOption.getD 0 = 0 → state.1 name = none) →
      Meets (withHistory (systemWorld refuses)) post (next index st)
        (state.1, state.2 ++ [⟨.ifNametoindex name, answer⟩])) :
    Meets (withHistory (systemWorld refuses)) post ((Method.attempt (ifindex name) >>= next) st)
      state := by
  obtain ⟨links, history⟩ := state
  rintro index ⟨after, later⟩ ⟨⟨rfl, zero⟩, rfl⟩
  by_cases absent : index = 0
  · subst absent
    exact each (.error _) _ fun _ => zero.mp rfl
  · have found := each (.ok index) index fun isZero => absurd isZero absent
    simpa only [Method.pure_apply, Program.pure_bind, Method.resume_ok, if_neg absent] using found

theorem testVlan_meets (st borrowed : Selftest) (state : Course)
    (gone : Tried state.2 → ¬ refuses (.del (vlanName st.parent testVid)) →
      state.1 (vlanName st.parent testVid) = none) :
    Meets (withHistory (systemWorld refuses))
      (fun result after => AfterVlan refuses (vlanName st.parent testVid) state result.1 after)
      (testVlan st borrowed) state := by
  obtain ⟨links, history⟩ := state
  have refused {text : String} {links : HostLinks}
      (deleted : ¬ refuses (.del (vlanName st.parent testVid)) →
        links (vlanName st.parent testVid) = none)
      (granted : (.error text : Except String Unit) = .ok () ∨
        ¬ refuses (.del (vlanName st.parent testVid))) :
      links (vlanName st.parent testVid) = none :=
    deleted (granted.resolve_left fun passed => by cases passed)
  refine Method.meets_perform ?_
  rintro opened ⟨opening, later⟩ ⟨taken, rfl⟩
  obtain rfl := same_of_new taken
  cases opened with
  | error error =>
      refine ⟨.refl _ _, List.prefix_append _ _, requestsOf_snoc_silent rfl, fun tried => ?_⟩
      exact refused (gone (not_tried_snoc (fun _ _ equal => by cases equal) tried))
  | ok socket =>
      refine Method.meets_perform ?_
      rintro cleared ⟨clearing, later⟩ ⟨taken, rfl⟩
      have cleared := gone_of_del taken
      have first := beside_del taken
      refine Method.meets_perform ?_
      rintro added ⟨adding, later⟩ ⟨taken, rfl⟩
      have second := first.trans (beside_addVlan taken)
      cases added with
      | error error =>
          obtain rfl : adding = clearing := taken.1
          exact ⟨second, by simp, by simp [requestsOf, request?], fun _ => refused cleared⟩
      | ok new =>
          cases new
          have confined : Confined refuses [vlanName st.parent testVid]
              (upAndDown st.parent (vlanName st.parent testVid)) :=
            confined_upAndDown (List.mem_singleton_self _)
          refine Method.meets_attempt (confined borrowed _) ?_
          rintro result used ⟨moving, later⟩ moved
          refine Method.meets_perform ?_
          rintro removed ⟨removing, last⟩ ⟨taken, rfl⟩
          have third := (second.trans moved.beside).trans (beside_del taken)
          have grows : history <+: later ++
              [(⟨.link (.del (vlanName st.parent testVid)), removed⟩ : Event selftestCalls)] :=
            (List.IsPrefix.trans (by simp) moved.grows).trans (List.prefix_append _ _)
          have requests : requestsOf (later ++
              [(⟨.link (.del (vlanName st.parent testVid)), removed⟩ : Event selftestCalls)]) =
                requestsOf history := by
            rw [requestsOf_snoc_silent rfl, moved.requests]
            simp [requestsOf, request?]
          cases result with
          | error error => exact ⟨third, grows, requests, fun _ => refused (gone_of_del taken)⟩
          | ok passed =>
              refine ifindex_meets fun index answer absent => ?_
              have stillGrows := grows.trans
                (List.prefix_append _ [(⟨.ifNametoindex _, answer⟩ : Event selftestCalls)])
              by_cases zero : index.toOption.getD 0 = 0
              · rw [if_neg (not_not.mpr zero)]
                exact ⟨third, stillGrows, (requestsOf_snoc_silent rfl).trans requests,
                  fun _ _ => absent zero⟩
              · rw [if_pos zero]
                exact ⟨third, stillGrows, (requestsOf_snoc_silent rfl).trans requests,
                  fun _ => refused (gone_of_del taken)⟩

/-! ## The board test -/

/-- The board test leaves the host alone, and makes all of its requests or none. -/
structure AfterBoard (before after : Course) : Prop where
  links : after.1 = before.1
  grows : before.2 <+: after.2
  untried : Tried after.2 → Tried before.2
  requests : requestsOf after.2 = requestsOf before.2 ∨
    requestsOf after.2 = requestsOf before.2 ++ boardRequests

theorem callBoard_exchange {α : Type} (opcode : UInt8) (payload : Bytes)
    (decode : Bytes → Except BoardError α) (st : Selftest) :
    callBoard (exchange opcode payload decode) st =
      .perform (.request 3 opcode payload) fun reply =>
        .pure (.ok (reply.bind fun r => decode (stripEcho r opcode)), st) := by
  rw [callBoard, callTyped, Method.bind_apply, Method.read_apply, Program.pure_bind,
    Method.resume_ok, Method.bind_apply, exchange_apply, Program.interp_perform]
  rfl

theorem exchange_meets {α : Type} {opcode : UInt8} {payload : Bytes}
    {decode : Bytes → Except BoardError α} {st : Selftest} {state : Course}
    {next : Except BoardError α → Test Unit} {post : Except String Unit × Selftest → Course → Prop}
    (each : ∀ result reply, Meets (withHistory (systemWorld refuses)) post (next result st)
      (state.1, state.2 ++ [⟨.request 3 opcode payload, reply⟩])) :
    Meets (withHistory (systemWorld refuses)) post
      ((callBoard (exchange opcode payload decode) >>= next) st) state := by
  obtain ⟨links, history⟩ := state
  rw [Method.bind_apply, callBoard_exchange]
  rintro reply ⟨after, later⟩ ⟨rfl, rfl⟩
  exact each _ reply

theorem testBoard_meets (st borrowed : Selftest) (state : Course) :
    Meets (withHistory (systemWorld refuses))
      (fun result after => result.2 = borrowed ∧ AfterBoard state after)
      (testBoard st borrowed) state := by
  obtain ⟨links, history⟩ := state
  refine Method.meets_perform ?_
  rintro opened ⟨after, later⟩ ⟨rfl, rfl⟩
  cases opened with
  | error error =>
      exact ⟨rfl, rfl, List.prefix_append _ _, not_tried_snoc fun _ _ equal => (by cases equal),
        .inl (requestsOf_snoc_silent rfl)⟩
  | ok socket =>
      refine Method.meets_perform ?_
      rintro set ⟨after, later⟩ ⟨rfl, rfl⟩
      refine exchange_meets fun _ line => exchange_meets fun _ channel => ?_
      refine exchange_meets fun _ up => exchange_meets fun _ linked => ?_
      refine ⟨rfl, rfl, by simp, ?_, .inr (by simp [requestsOf, request?, boardRequests])⟩
      rintro ⟨parent, vlanId, answer, member⟩
      exact ⟨parent, vlanId, answer, by simpa using member⟩

/-! ## The whole of it -/

/-- What the selftest has done so far: it has worked on its interfaces only, the one of the VLAN
test is gone, and the board was asked for everything or nothing, and only over a carrier. -/
structure Tested (refuses : RtnlOp → Prop) (st : Selftest) (links : HostLinks)
    (after : Selftest × Course) : Prop where
  beside : Beside st.touches links after.2.1
  gone : Tried after.2.2 → after.1.fail = 0 ∨ ¬ refuses (.del (vlanName st.parent testVid)) →
    after.2.1 (vlanName st.parent testVid) = none
  requests : requestsOf after.2.2 = [] ∨
    requestsOf after.2.2 = boardRequests ∧ CarriedFirst st.configIface after.2.2

/-- There is a carrier, and the board has not been asked yet. -/
structure Wired (refuses : RtnlOp → Prop) (st : Selftest) (links : HostLinks)
    (after : Selftest × Course) : Prop extends Tested refuses st links after where
  carried : Carried st.configIface after.2.2
  unasked : requestsOf after.2.2 = []

section Whole

variable {st : Selftest} {links : HostLinks} {before after : Selftest × Course}

theorem same_of_beside_nil {links after : HostLinks} (beside : Beside [] links after) :
    after = links := by
  have bare (other : String) : ¬ links.Above [] other := by
    intro above
    induction above with
    | on _ _ member => cases member
    | upon _ _ _ ih => exact ih
  exact funext fun other => beside.same other List.not_mem_nil (bare other)

theorem Carried.mono {iface : String} {history later : History selftestCalls}
    (carried : Carried iface history) (grows : history <+: later) : Carried iface later := by
  obtain ⟨text, member, one⟩ := carried
  exact ⟨text, grows.mem member, one⟩

theorem CarriedFirst.mono {iface : String} {history later : History selftestCalls}
    (carried : CarriedFirst iface history) (grows : history <+: later) :
    CarriedFirst iface later := by
  obtain ⟨before, earlier, shown, unasked⟩ := carried
  exact ⟨before, earlier.trans grows, shown, unasked⟩

theorem Tested.goes (tested : Tested refuses st links before) (goes : Goes [] before after) :
    Tested refuses st links after := by
  have same := same_of_beside_nil goes.beside
  refine ⟨same ▸ tested.beside, fun tried granted => ?_, ?_⟩
  · rw [same]
    refine tested.gone (goes.untried tried) (granted.imp_left fun none => ?_)
    exact Nat.le_zero.mp (none ▸ goes.fail)
  · rw [goes.requests]
    exact tested.requests.imp_right fun asked => ⟨asked.1, asked.2.mono goes.grows⟩

theorem Wired.goes (wired : Wired refuses st links before) (goes : Goes [] before after) :
    Wired refuses st links after :=
  ⟨wired.toTested.goes goes, wired.carried.mono goes.grows, goes.requests.trans wired.unasked⟩

/-- The result of the VLAN test is counted. -/
theorem wired_recordTest_testVlan (wired : Wired refuses st links before) :
    Meets (withHistory (systemWorld refuses))
      (fun result after => Wired refuses st links (result.2, after))
      (recordTest (testVlan st) before.1) before.2 := by
  have gone : Tried before.2.2 → ¬ refuses (.del (vlanName st.parent testVid)) →
      before.2.1 (vlanName st.parent testVid) = none :=
    fun tried grants => wired.gone tried (.inr grants)
  refine Method.meets_attempt (testVlan_meets st before.1 before.2 gone) ?_
  intro result used after tested
  have beside : Beside st.touches links after.1 := by
    refine wired.beside.trans (tested.beside.mono ?_)
    exact List.cons_subset.mpr ⟨by simp [touches], List.nil_subset _⟩
  have requests := tested.requests.trans wired.unasked
  have carried := wired.carried.mono tested.grows
  cases result with
  | ok passed =>
      exact ⟨⟨beside, fun tried _ => tested.gone tried (.inl rfl), .inl requests⟩, carried,
        requests⟩
  | error error =>
      refine ⟨⟨beside, fun tried granted => tested.gone tried (.inr ?_), .inl requests⟩, carried,
        requests⟩
      exact granted.resolve_left (Nat.succ_ne_zero _)

theorem tested_recordTest_testBoard (wired : Wired refuses st links before) :
    Meets (withHistory (systemWorld refuses))
      (fun result after => Tested refuses st links (result.2, after))
      (recordTest (testBoard st) before.1) before.2 := by
  refine Method.meets_attempt (testBoard_meets st before.1 before.2) ?_
  rintro result used after ⟨rfl, asked⟩
  have beside : Beside st.touches links after.1 := asked.links ▸ wired.beside
  have gone (tried : Tried after.2)
      (granted : before.1.fail = 0 ∨ ¬ refuses (.del (vlanName st.parent testVid))) :
      after.1 (vlanName st.parent testVid) = none := by
    rw [asked.links]
    exact wired.gone (asked.untried tried) granted
  have requests : requestsOf after.2 = [] ∨
      requestsOf after.2 = boardRequests ∧ CarriedFirst st.configIface after.2 := by
    rcases asked.requests with nothing | everything
    · exact .inl (nothing.trans wired.unasked)
    · rw [wired.unasked, List.nil_append] at everything
      exact .inr ⟨everything, before.2.2, asked.grows, wired.carried, wired.unasked⟩
  cases result with
  | ok passed => exact ⟨beside, gone, requests⟩
  | error error =>
      refine ⟨beside, fun tried granted => gone tried (.inr ?_), requests⟩
      exact granted.resolve_left (Nat.succ_ne_zero _)

theorem tested_recordWired (wired : Wired refuses st links before) :
    Meets (withHistory (systemWorld refuses))
      (fun result after => Tested refuses st links (result.2, after))
      (recordWired st before.1) before.2 := by
  have socket : Confined refuses [] (recordTest (testSocket st)) :=
    confined_recordTest (confined_testSocket st)
  refine Method.meets_bind (socket before.1 before.2) ?_ fun error => error.elim
  intro _ receiver state goes
  refine Method.meets_bind (wired_recordTest_testVlan (wired.goes goes)) ?_ fun error => error.elim
  intro _ receiver state wired
  exact tested_recordTest_testBoard wired

/-- A carrier is seen in its file. -/
theorem hasCarrier_meets (iface : String) (receiver : Selftest) (state : Course) :
    Meets (withHistory (systemWorld refuses))
      (fun result after => Goes [] (receiver, state) (result.2, after) ∧
        (result.1 = .ok true → Carried iface after.2))
      ((hasCarrier iface : Method selftestCalls Selftest Empty Bool) receiver) state := by
  obtain ⟨links, history⟩ := state
  rintro text ⟨after, later⟩ ⟨taken, rfl⟩
  have confined : Confined refuses []
      (hasCarrier iface : Method selftestCalls Selftest Empty Bool) := confined_hasCarrier iface
  refine ⟨confined receiver (links, history) text (after, _) ⟨taken, rfl⟩, fun shown => ?_⟩
  cases text with
  | error error => cases shown
  | ok text =>
      refine ⟨text, List.mem_append_right _ (List.mem_singleton_self _), ?_⟩
      simpa only [Except.toOption, Option.bind_some, Except.ok.injEq, beq_iff_eq] using shown

theorem tested_run (configIface : String) (links : HostLinks) :
    Meets (withHistory (systemWorld refuses))
      (fun result after => Tested refuses (new configIface) links (result.2, after) ∧
        ∀ code, result.1 = .ok code → (code = 0 ↔ result.2.fail = 0))
      (run configIface) (links, []) := by
  have linkUp : Confined refuses (new configIface).touches
      (recordTest (testLinkUp (new configIface))) := confined_recordTest (confined_testLinkUp _)
  have uci : Confined refuses [] (recordTest testUci) := confined_recordTest confined_testUci
  have uloop : Confined refuses [] (recordTest testUloop) := confined_recordTest (moves_pure ())
  unfold run execute
  rw [Method.bind_apply, Method.read_apply, Program.pure_bind, Method.resume_ok]
  refine Method.meets_bind (linkUp (new configIface) (links, [])) ?_ fun error => error.elim
  rintro _ receiver ⟨afterLink, history⟩ goes
  have untried : ¬ Tried history := fun tried => by
    obtain ⟨_, _, _, member⟩ := goes.untried tried
    cases member
  have requests : requestsOf history = [] := goes.requests
  have linked : Tested refuses (new configIface) links (receiver, afterLink, history) :=
    ⟨goes.beside, fun tried => absurd tried untried, .inl requests⟩
  refine Method.meets_bind (hasCarrier_meets _ receiver _) ?_ fun error => error.elim
  rintro carrier receiver state ⟨goes, shown⟩
  have wires : Meets (withHistory (systemWorld refuses))
      (fun result after => Tested refuses (new configIface) links (result.2, after))
      ((if carrier then recordWired (new configIface) else pure ()) receiver) state := by
    cases carrier with
    | false => exact linked.goes goes
    | true => exact tested_recordWired ⟨linked.goes goes, shown rfl, goes.requests.trans requests⟩
  refine Method.meets_bind wires ?_ fun error => error.elim
  intro _ receiver state tested
  refine Method.meets_bind (uci receiver state) ?_ fun error => error.elim
  intro _ receiver state goes
  have tested := tested.goes goes
  refine Method.meets_bind (uloop receiver state) ?_ fun error => error.elim
  intro _ receiver state goes
  refine ⟨tested.goes goes, ?_⟩
  rintro code ⟨⟩
  by_cases failed : receiver.fail > 0
  · simp [failed, Nat.pos_iff_ne_zero.mp failed]
  · simp [Nat.eq_zero_of_not_pos failed]

end Whole

end Parts

/-- A system on which everything works. -/
def workingSystem : Oracle selftestCalls
  | _, .readFile path => .ok (if path.endsWith "carrier" then "1" else "up")
  | history, .link (.del _) =>
    if history.length < 9 then .error ⟨some 19, "No such device"⟩ else .ok ()
  | history, .ifNametoindex _ => if history.length < 13 then 3 else 0
  | _, .link _ | _, .setDown _ => .ok ()
  | _, .openSocket .. | _, .setSocketTimeout _ | _, .uciNew => .ok ()
  | _, .request .. => .error .timeout
  | _, .uciGet _ => .ok "br-lan"
  | _, .sleep _ => ()

/-- How the events of a selftest move the test interface of a host, where they fit it. -/
def hostStep (iface : Option Bool) : Event selftestCalls → Option (Option Bool)
  | ⟨.link .new, .ok ()⟩ => some iface
  | ⟨.link (.del name), answer⟩ =>
    if name = "lan0.2001" ∧ answer.isOk = iface.isSome then some none else none
  | ⟨.link (.addVlan parent vlanId), .ok ()⟩ =>
    if parent = "lan0" ∧ vlanId = 2001 ∧ iface = none then some (some false) else none
  | ⟨.link (.setUp name), .ok ()⟩ =>
    if name = "lan0.2001" ∧ iface.isSome = true then some (some true) else none
  | ⟨.setDown name, .ok ()⟩ =>
    if name = "lan0.2001" ∧ iface.isSome = true then some (some false) else none
  | ⟨.ifNametoindex name, index⟩ =>
    if name = "lan0" ∧ index ≠ 0 ∨ name = "lan0.2001" ∧ (index = 0 ↔ iface = none) then some iface
    else none
  | ⟨.link _, _⟩ | ⟨.setDown _, _⟩ => none
  | _ => some iface

theorem vlanName_lan0 : vlanName "lan0" 2001 = "lan0.2001" := by decide +kernel

theorem systemWorld_of_hostStep {iface iface' : Option Bool} {event : Event selftestCalls}
    (stepped : hostStep iface event = some iface') :
    systemWorld (fun _ => False) (hostWith 2001 iface) event (hostWith 2001 iface') := by
  have lower : vlanName "lan0" 2001 ≠ "lan0" := by decide +kernel
  obtain ⟨op, answer⟩ := event
  cases op with
  | link op =>
      cases op with
      | new =>
          cases answer with
          | error error => cases stepped
          | ok done =>
              cases stepped
              rfl
      | del name =>
          obtain ⟨⟨rfl, isOk⟩, same⟩ := Option.ite_none_right_eq_some.mp stepped
          cases same
          rw [← vlanName_lan0]
          cases answer with
          | ok done =>
              obtain ⟨up, rfl⟩ := Option.isSome_iff_exists.mp isOk.symm
              exact removes_hostWith lower up
          | error error =>
              have gone : iface.isNone := Option.isSome_eq_false_iff.mp isOk.symm
              obtain rfl : iface = none := Option.isNone_iff_eq_none.mp gone
              exact ⟨rfl, .inl hostWith_self⟩
      | addVlan parent vlanId =>
          cases answer with
          | error error => cases stepped
          | ok done =>
              obtain ⟨⟨rfl, rfl, rfl⟩, same⟩ := Option.ite_none_right_eq_some.mp stepped
              cases same
              exact adds_hostWith (by decide) lower
      | setUp name =>
          cases answer with
          | error error => cases stepped
          | ok done =>
              obtain ⟨⟨rfl, isSome⟩, same⟩ := Option.ite_none_right_eq_some.mp stepped
              cases same
              obtain ⟨up, rfl⟩ := Option.isSome_iff_exists.mp isSome
              rw [← vlanName_lan0]
              exact switches_hostWith true up
  | setDown name =>
      cases answer with
      | error error => cases stepped
      | ok done =>
          obtain ⟨⟨rfl, isSome⟩, same⟩ := Option.ite_none_right_eq_some.mp stepped
          cases same
          obtain ⟨up, rfl⟩ := Option.isSome_iff_exists.mp isSome
          rw [← vlanName_lan0]
          exact switches_hostWith false up
  | ifNametoindex name =>
      obtain ⟨shown, same⟩ := Option.ite_none_right_eq_some.mp stepped
      cases same
      refine ⟨rfl, ?_⟩
      rcases shown with ⟨rfl, present⟩ | ⟨rfl, absent⟩
      · rw [hostWith_of_ne lower.symm]
        exact iff_of_false present (by decide)
      · rw [← vlanName_lan0, hostWith_self, Option.map_eq_none_iff]
        exact absent
  | _ =>
      cases stepped
      rfl

theorem evolves_of_hostStep {iface iface' : Option Bool} {events : History selftestCalls}
    (stepped : events.foldlM hostStep iface = some iface') :
    Evolves (systemWorld fun _ => False) (hostWith 2001 iface) events (hostWith 2001 iface') := by
  induction events generalizing iface with
  | nil =>
      cases stepped
      exact .nil _
  | cons event events ih =>
      rw [List.foldlM_cons] at stepped
      obtain ⟨middle, here, rest⟩ := Option.bind_eq_some_iff.mp stepped
      exact .cons (systemWorld_of_hostStep here) (ih rest)

end Selftest

end RbctlDsl.Dsl
