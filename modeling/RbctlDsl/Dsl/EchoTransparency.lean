import RbctlDsl.Dsl.StatusDecoding

/-!
# Replies with and without an echoed opcode

The methods that decode a reply strip a first byte that equals their opcode.  A reply body that
begins with such a byte is taken for one with an echo.  Replies with and without the echo
are therefore the same to a method exactly if the body does not begin so, or if reading it one
byte further on gives the same value.
-/

namespace RbctlDsl.Dsl

open RbctlDsl.Lib RbctlDsl.Proto

/-- The methods that decode the body of a reply. -/
inductive ReportMethod where
  | getLineObj
  | getChannelStats
  | atmLinkAdd (params : AtmLinkParams)
  | ptmLinkAdd (tagEnable : UInt8) (tagVid tagPri vlanId : UInt16)

namespace ReportMethod

def Result : ReportMethod → Type
  | .getLineObj => LineObj
  | .getChannelStats => ChannelStats
  | .atmLinkAdd _ | .ptmLinkAdd .. => UInt16

def call : (method : ReportMethod) → Typed method.Result
  | .getLineObj => RbctlDsl.Dsl.getLineObj
  | .getChannelStats => RbctlDsl.Dsl.getChannelStats
  | .atmLinkAdd params => RbctlDsl.Dsl.atmLinkAdd params
  | .ptmLinkAdd tagEnable tagVid tagPri vlanId =>
      RbctlDsl.Dsl.ptmLinkAdd tagEnable tagVid tagPri vlanId

def opcode : ReportMethod → UInt8
  | .getLineObj => 2
  | .getChannelStats => 4
  | .atmLinkAdd _ => 5
  | .ptmLinkAdd .. => 15

/-- The documented length of the reply body. -/
def bodyLength : ReportMethod → Nat
  | .getLineObj => 63
  | .getChannelStats => 28
  | .atmLinkAdd _ => 24
  | .ptmLinkAdd .. => 8

/-- A reply body of the documented length. -/
structure Body (method : ReportMethod) where
  data : Bytes
  length : data.length = method.bodyLength

/-- The body at the documented offsets. -/
def decoding : (method : ReportMethod) → method.Body → Except String method.Result
  | .getLineObj, d => parseLineObj d.data
  | .getChannelStats, d => parseChannelStats d.data
  | .atmLinkAdd _, ⟨data, length⟩ =>
      .ok (u16At (show 24 ≤ data.length from Nat.le_of_eq length.symm) 0x12 (by decide))
  | .ptmLinkAdd .., ⟨data, length⟩ =>
      .ok (u16At (show 8 ≤ data.length from Nat.le_of_eq length.symm) 6 (by decide))

/-- What a method returns when its request is answered by `reply`. -/
def returnsFor (method : ReportMethod) (reply : Bytes) (settings : Settings)
    (history : History boardCalls) : Outcome (Except BoardError method.Result × Settings) :=
  ((method.call settings).exec (replying reply) history).outcome

/-- With and without the echo, the method returns the decoding of the body. -/
def EchoTransparent (method : ReportMethod) (d : method.Body) (settings : Settings)
    (history : History boardCalls) : Prop :=
  method.returnsFor d.data settings history =
      method.returnsFor (method.opcode :: d.data) settings history ∧
    method.returnsFor d.data settings history =
      .returned ((method.decoding d).mapError .badResponse, settings)

/-- The body does not begin with the opcode; or it does, and a read at the next byte gives the
same value, or the requested id is the assigned one. -/
def Unambiguous : (method : ReportMethod) → method.Body → Prop
  | .getLineObj, d => d.data.head? ≠ some 2
  | .getChannelStats, d => d.data.head? ≠ some 4
  | .atmLinkAdd _, d => d.data.head? ≠ some 5 ∨
      (d.data[0x12]? = d.data[0x13]? ∧ d.data[0x13]? = d.data[0x14]?)
  | .ptmLinkAdd _ _ _ vlanId, d => d.data.head? ≠ some 15 ∨ be16At? d.data 6 = some vlanId

end ReportMethod

/-! ## Stripping -/

theorem stripEcho_cons (opcode : UInt8) (data : Bytes) :
    stripEcho (opcode :: data) opcode = data :=
  if_pos rfl

theorem stripEcho_of_ne {opcode : UInt8} {data : Bytes} (differs : data.head? ≠ some opcode) :
    stripEcho data opcode = data :=
  if_neg differs

theorem stripEcho_of_eq {opcode : UInt8} {data : Bytes} (same : data.head? = some opcode) :
    stripEcho data opcode = data.drop 1 :=
  if_pos same

/-- An exchange is transparent to an echo exactly if what it strips from the body makes no
difference to what it decodes. -/
theorem exchange_transparent_iff {α : Type} {opcode : UInt8} {payload d : Bytes}
    {decode : Bytes → Except BoardError α} {spec : Except BoardError α} (settings : Settings)
    (history : History boardCalls) (decodes : decode d = spec) :
    (((exchange opcode payload decode settings).exec (replying d) history).outcome =
        ((exchange opcode payload decode settings).exec (replying (opcode :: d))
          history).outcome ∧
      ((exchange opcode payload decode settings).exec (replying d) history).outcome =
        .returned (spec, settings)) ↔
    decode (stripEcho d opcode) = decode d := by
  rw [exec_exchange, exec_exchange, stripEcho_cons, ← decodes]
  constructor
  · rintro ⟨_, returned⟩
    exact (Prod.mk.inj (Outcome.returned.inj returned)).1
  · intro same
    rw [same]
    exact ⟨rfl, rfl⟩

/-- A report of exactly the documented size is read the same after stripping only if nothing
is stripped. -/
theorem decodeReport_stripEcho_iff {α : Type} {size : Nat} {short : String}
    {parse : Bytes → Except String α} {opcode : UInt8} {data : Bytes} {report : α}
    (length : data.length = size) (positive : 0 < size) (parsed : parse data = .ok report) :
    decodeReport size short parse (stripEcho data opcode) = decodeReport size short parse data ↔
      data.head? ≠ some opcode := by
  constructor
  · intro same echoed
    have cut : (data.drop 1).length < size := by
      rw [List.length_drop]
      omega
    rw [stripEcho_of_eq echoed, decodeReport, if_pos cut, decodeReport,
      if_neg (by omega : ¬ data.length < size), parsed] at same
    cases same
  · intro differs
    rw [stripEcho_of_ne differs]

/-- A report of exactly the documented size is transparent to an echo exactly if it does not begin
with the opcode. -/
theorem report_transparent_iff {α : Type} {size : Nat} {short : String}
    {parse : Bytes → Except String α} {opcode : UInt8} {payload data : Bytes} {report : α}
    (settings : Settings) (history : History boardCalls) (length : data.length = size)
    (positive : 0 < size) (parsed : parse data = .ok report) :
    (((exchange opcode payload (decodeReport size short parse) settings).exec (replying data)
          history).outcome =
        ((exchange opcode payload (decodeReport size short parse) settings).exec
          (replying (opcode :: data)) history).outcome ∧
      ((exchange opcode payload (decodeReport size short parse) settings).exec (replying data)
          history).outcome =
        .returned ((parse data).mapError .badResponse, settings)) ↔
    data.head? ≠ some opcode := by
  have decodes : decodeReport size short parse data = (parse data).mapError .badResponse :=
    if_neg (by omega)
  exact (exchange_transparent_iff settings history decodes).trans
    (decodeReport_stripEcho_iff length positive parsed)

/-- A link-add is transparent to an echo exactly if what it strips makes no difference to the
id that it reads. -/
theorem linkAdd_transparent_iff {opcode : UInt8} {payload data : Bytes} {offset length : Nat}
    (requested : UInt16) (settings : Settings) (history : History boardCalls)
    (long : length ≤ data.length) (inside : offset + 2 ≤ length) :
    (((exchange opcode payload (fun data => .ok (assignedVlan offset requested data))
          settings).exec (replying data) history).outcome =
        ((exchange opcode payload (fun data => .ok (assignedVlan offset requested data))
          settings).exec (replying (opcode :: data)) history).outcome ∧
      ((exchange opcode payload (fun data => .ok (assignedVlan offset requested data))
          settings).exec (replying data) history).outcome =
        .returned (.ok (u16At long offset inside), settings)) ↔
    (be16At? (stripEcho data opcode) offset).getD requested =
      (be16At? data offset).getD requested := by
  have decodes : (fun data => .ok (assignedVlan offset requested data) :
      Bytes → Except BoardError UInt16) data = .ok (u16At long offset inside) := by
    dsimp only
    rw [assignedVlan_eq, u16At, ← Option.get_eq_getD _]
  rw [exchange_transparent_iff settings history decodes, Except.ok.injEq, assignedVlan_eq,
    assignedVlan_eq]

/-- One byte further on, two of the three bytes from the offset are read. -/
theorem assigned_atm_iff {data : Bytes} {opcode : UInt8} {offset : Nat} (requested : UInt16)
    (long : offset + 3 ≤ data.length) (echoed : data.head? = some opcode) :
    (be16At? (stripEcho data opcode) offset).getD requested =
        (be16At? data offset).getD requested ↔
      data[offset]? = data[offset + 1]? ∧ data[offset + 1]? = data[offset + 2]? := by
  have first : data[offset]? = some data[offset] := List.getElem?_eq_getElem _
  have second : data[offset + 1]? = some data[offset + 1] := List.getElem?_eq_getElem _
  have third : data[offset + 2]? = some data[offset + 2] := List.getElem?_eq_getElem _
  have later : be16At? data (1 + offset) = be16At? data (offset + 1) := by rw [Nat.add_comm]
  rw [stripEcho_of_eq echoed, be16At?_drop, later, be16At?_eq (by omega), be16At?_eq (by omega),
    Option.getD_some, Option.getD_some, be16_inj, first, second, third, Option.some.injEq,
    Option.some.injEq]
  constructor
  · rintro ⟨high, low⟩
    exact ⟨high.symm, low.symm⟩
  · rintro ⟨high, low⟩
    exact ⟨high.symm, low.symm⟩

/-- One byte further on, the reply is too short and the requested id stands in. -/
theorem assigned_ptm_iff {data : Bytes} {opcode : UInt8} {offset : Nat} (requested : UInt16)
    (length : data.length = offset + 2) (echoed : data.head? = some opcode) :
    (be16At? (stripEcho data opcode) offset).getD requested =
        (be16At? data offset).getD requested ↔ be16At? data offset = some requested := by
  have short : be16At? data (1 + offset) = none := by
    rw [← Option.not_isSome_iff_eq_none, be16At?_isSome_iff]
    omega
  obtain ⟨assigned, read⟩ : ∃ assigned, be16At? data offset = some assigned :=
    ⟨_, be16At?_eq (by omega)⟩
  rw [stripEcho_of_eq echoed, be16At?_drop, short, read, Option.getD_none, Option.getD_some,
    Option.some.injEq]
  exact eq_comm

namespace ReportMethod

/-- A method is transparent to an echo for exactly the unambiguous bodies. -/
theorem echoTransparent_iff (method : ReportMethod) (d : method.Body) (settings : Settings)
    (history : History boardCalls) :
    method.EchoTransparent d settings history ↔ method.Unambiguous d := by
  obtain ⟨data, length⟩ := d
  cases method with
  | getLineObj =>
      have long : data.length = 63 := length
      obtain ⟨line, parsed⟩ : ∃ line, parseLineObj data = .ok line :=
        ⟨_, dif_pos (Nat.le_of_eq long.symm)⟩
      exact report_transparent_iff settings history long (by decide) parsed
  | getChannelStats =>
      have long : data.length = 28 := length
      obtain ⟨stats, parsed⟩ : ∃ stats, parseChannelStats data = .ok stats :=
        ⟨_, dif_pos (Nat.le_of_eq long.symm)⟩
      exact report_transparent_iff settings history long (by decide) parsed
  | atmLinkAdd params =>
      have long : data.length = 24 := length
      refine (linkAdd_transparent_iff params.vlanId settings history (Nat.le_of_eq long.symm)
        (by decide)).trans ?_
      by_cases echoed : data.head? = some 5
      · refine (assigned_atm_iff params.vlanId (by omega) echoed).trans ?_
        exact (or_iff_right (not_not_intro echoed)).symm
      · rw [stripEcho_of_ne echoed]
        exact iff_of_true rfl (.inl echoed)
  | ptmLinkAdd tagEnable tagVid tagPri vlanId =>
      have long : data.length = 8 := length
      refine (linkAdd_transparent_iff vlanId settings history (Nat.le_of_eq long.symm)
        (by decide)).trans ?_
      by_cases echoed : data.head? = some 15
      · refine (assigned_ptm_iff vlanId long echoed).trans ?_
        exact (or_iff_right (not_not_intro echoed)).symm
      · rw [stripEcho_of_ne echoed]
        exact iff_of_true rfl (.inl echoed)

/-- A status whose top byte is 2, as a reply without an echo carries it. -/
def statusTwo : Body .getLineObj := ⟨2 :: List.replicate 62 0, rfl⟩

theorem not_echoTransparent_statusTwo :
    ¬ ∀ (method : ReportMethod) (d : method.Body) (settings : Settings)
      (history : History boardCalls), method.EchoTransparent d settings history := by
  intro transparent
  obtain ⟨_, returned⟩ := transparent .getLineObj statusTwo ⟨defaultTimeout, defaultRetries⟩ []
  cases returned

end ReportMethod

end RbctlDsl.Dsl
