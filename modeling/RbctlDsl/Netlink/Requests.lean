import RbctlDsl.Netlink.Lenient

/-!
# Requests to rtnetlink

`tinyln_rs::rtnl`: how `RtnlLink`, `RtnlAddr` and `RtnlRoute` build their messages, and what the
messages say.  The numbers are those of the headers of the kernel.
-/

namespace RbctlDsl.Netlink

open RbctlDsl.Lib

/-! ## Constants -/

def NLM_F_REQUEST : UInt16 := 0x01

def NLM_F_ACK : UInt16 := 0x04

def NLM_F_CREATE : UInt16 := 0x0400

def NLM_F_EXCL : UInt16 := 0x0200

def IFF_UP : UInt32 := 1

def AF_UNSPEC : UInt8 := 0

def AF_INET : UInt8 := 2

def RTM_NEWLINK : UInt16 := 16

def RTM_DELLINK : UInt16 := 17

def RTM_SETLINK : UInt16 := 19

def RTM_NEWADDR : UInt16 := 20

def RTM_DELADDR : UInt16 := 21

def RTM_NEWROUTE : UInt16 := 24

def RTM_DELROUTE : UInt16 := 25

def IFLA_IFNAME : UInt16 := 3

def IFLA_LINK : UInt16 := 5

def IFLA_LINKINFO : UInt16 := 18

def IFLA_INFO_KIND : UInt16 := 1

def IFLA_INFO_DATA : UInt16 := 2

def IFLA_VLAN_ID : UInt16 := 1

def IFA_ADDRESS : UInt16 := 1

def IFA_LOCAL : UInt16 := 2

def RTA_DST : UInt16 := 1

def RTA_OIF : UInt16 := 4

def RTA_GATEWAY : UInt16 := 5

/-! ## Records -/

/-- The record of a message about an interface. -/
structure Ifinfomsg where
  ifiFamily : UInt8
  ifiPad : UInt8
  ifiType : UInt16
  ifiIndex : Int32
  ifiFlags : UInt32
  ifiChange : UInt32
  deriving DecidableEq, Repr

/-- The record with an index, flags and the mask of those to change. -/
def buildIfi (idx : Int32) (flags change : UInt32) : Ifinfomsg where
  ifiFamily := AF_UNSPEC
  ifiPad := 0
  ifiType := 0
  ifiIndex := idx
  ifiFlags := flags
  ifiChange := change

/-- The record of a message about an address. -/
structure Ifaddrmsg where
  ifaFamily : UInt8
  ifaPrefixlen : UInt8
  ifaFlags : UInt8
  ifaScope : UInt8
  ifaIndex : UInt32
  deriving DecidableEq, Repr

/-- The record of a message about a route. -/
structure Rtmsg where
  rtmFamily : UInt8
  rtmDstLen : UInt8
  rtmSrcLen : UInt8
  rtmTos : UInt8
  rtmTable : UInt8
  rtmProtocol : UInt8
  rtmScope : UInt8
  rtmType : UInt8
  rtmFlags : UInt32
  deriving DecidableEq, Repr

/-- The fields in memory, each with its width.  None of the records has gaps. -/
def Ifinfomsg.fields (ifi : Ifinfomsg) : List (Nat × Nat) :=
  [(1, ifi.ifiFamily.toNat), (1, ifi.ifiPad.toNat), (2, ifi.ifiType.toNat),
    (4, ifi.ifiIndex.toUInt32.toNat), (4, ifi.ifiFlags.toNat), (4, ifi.ifiChange.toNat)]

def Ifaddrmsg.fields (ifa : Ifaddrmsg) : List (Nat × Nat) :=
  [(1, ifa.ifaFamily.toNat), (1, ifa.ifaPrefixlen.toNat), (1, ifa.ifaFlags.toNat),
    (1, ifa.ifaScope.toNat), (4, ifa.ifaIndex.toNat)]

def Rtmsg.fields (rtm : Rtmsg) : List (Nat × Nat) :=
  [(1, rtm.rtmFamily.toNat), (1, rtm.rtmDstLen.toNat), (1, rtm.rtmSrcLen.toNat),
    (1, rtm.rtmTos.toNat), (1, rtm.rtmTable.toNat), (1, rtm.rtmProtocol.toNat),
    (1, rtm.rtmScope.toNat), (1, rtm.rtmType.toNat), (4, rtm.rtmFlags.toNat)]

/-- An IPv4 address by its bytes. -/
structure Ipv4Addr where
  a : UInt8
  b : UInt8
  c : UInt8
  d : UInt8
  deriving DecidableEq, Repr

def Ipv4Addr.octets (addr : Ipv4Addr) : Bytes := [addr.a, addr.b, addr.c, addr.d]

/-! ## Messages -/

/-- An `nl_msg` with the fields of its header that the code sets. -/
structure RtMsg where
  nlmsgType : UInt16
  nlmsgFlags : UInt16
  body : NlMsg
  deriving DecidableEq, Repr

/-- What `unl_rtnl_msg` gives for a command. -/
def RtMsg.fresh (cmd : UInt16) : RtMsg := ⟨cmd, 0, ⟨[]⟩⟩

/-- libnl-tiny with `nlmsg_append` on a message, the memory at `data`, and `pad`. -/
structure Rtnl extends Libnl where
  nlmsgAppend : NlMsg → Bytes → Int32 → Int32 × NlMsg

/-- Why a message is not built: the record does not fit, an attribute cannot be opened, or something
outside of the message is written to. -/
inductive BuildError where
  | append
  | nestStart (text : String)
  | outside
  deriving DecidableEq, Repr

/-- A step that fails ends the building. -/
def orError {α : Type} (error : BuildError) : Option α → Except BuildError α
  | some value => .ok value
  | none => .error error

section Building

variable (lib : Rtnl)

/-- `append_struct`, on the fields of the record. -/
def appendStruct (msg : RtMsg) (fields : List (Nat × Nat)) : Except BuildError RtMsg :=
  let result := lib.nlmsgAppend msg.body (packNe lib.order fields) (.ofNat NLMSG_ALIGNTO)
  if result.1 < 0 then .error .append else .ok { msg with body := result.2 }

/-- `RtnlLink::alloc_msg`. -/
def linkMsg (cmd : UInt16) : RtMsg :=
  { RtMsg.fresh cmd with nlmsgFlags := NLM_F_REQUEST ||| NLM_F_ACK }

/-- The message of `RtnlLink::add_vlan`: the kind of the interface and the id of the VLAN are
nested.  What `put` returns is not looked at. -/
def addVlanMsg (name : String) (parentIdx : Int32) (vid : UInt16) : Except BuildError RtMsg := do
  let msg := linkMsg RTM_NEWLINK
  let msg := { msg with nlmsgFlags := msg.nlmsgFlags ||| (NLM_F_CREATE ||| NLM_F_EXCL) }
  let msg ← appendStruct lib msg (buildIfi 0 0 0).fields
  let body := (putString lib.toLibnl msg.body (attrtype IFLA_IFNAME) name).2
  let body := (putU32 lib.toLibnl body (attrtype IFLA_LINK) parentIdx.toUInt32).2
  let li ← orError (.nestStart "nest_start IFLA_LINKINFO")
    (nestStart lib.toLibnl body (attrtype IFLA_LINKINFO))
  let body := (putString lib.toLibnl li.2 (attrtype IFLA_INFO_KIND) "vlan").2
  let data ← orError (.nestStart "nest_start IFLA_INFO_DATA")
    (nestStart lib.toLibnl body (attrtype IFLA_INFO_DATA))
  let body := (putU16 lib.toLibnl data.2 (attrtype IFLA_VLAN_ID) vid).2
  let body ← orError .outside (nestEnd lib.toLibnl body data.1)
  let body ← orError .outside (nestEnd lib.toLibnl body li.1)
  pure { msg with body := body }

/-- The message of `RtnlLink::del`. -/
def delMsg (idx : Int32) : Except BuildError RtMsg :=
  appendStruct lib (linkMsg RTM_DELLINK) (buildIfi idx 0 0).fields

/-- The message of `RtnlLink::set_flags`.  `set_down` asks for the flag `IFF_UP` to be cleared. -/
def setFlagsMsg (idx : Int32) (flags change : UInt32) : Except BuildError RtMsg :=
  appendStruct lib (linkMsg RTM_SETLINK) (buildIfi idx flags change).fields

/-- The message of `RtnlLink::set_up`. -/
def setUpMsg (idx : Int32) : Except BuildError RtMsg := setFlagsMsg lib idx IFF_UP IFF_UP

/-- The message of `RtnlAddr::add_del`. -/
def addrMsg (cmd : UInt16) (idx : Int32) (addr : Ipv4Addr) (prefixLen : UInt8) :
    Except BuildError RtMsg := do
  let ifa : Ifaddrmsg := ⟨AF_INET, prefixLen, 0, 0, idx.toUInt32⟩
  let msg ← appendStruct lib (RtMsg.fresh cmd) ifa.fields
  let body := (put lib.toLibnl msg.body (attrtype IFA_LOCAL) addr.octets).2
  let body := (put lib.toLibnl body (attrtype IFA_ADDRESS) addr.octets).2
  pure { msg with body := body }

/-- A route without a gateway has no attribute for it. -/
def putGateway (body : NlMsg) : Option Ipv4Addr → NlMsg
  | some gw => (put lib.toLibnl body (attrtype RTA_GATEWAY) gw.octets).2
  | none => body

/-- The message of `RtnlRoute::add_del`. -/
def routeMsg (cmd : UInt16) (dst : Ipv4Addr) (prefixLen : UInt8) (gateway : Option Ipv4Addr)
    (idx : UInt32) : Except BuildError RtMsg := do
  let rtm : Rtmsg := ⟨AF_INET, prefixLen, 0, 0, 0, 0, 0, 0, 0⟩
  let msg ← appendStruct lib (RtMsg.fresh cmd) rtm.fields
  let body := (put lib.toLibnl msg.body (attrtype RTA_DST) dst.octets).2
  let body := putGateway lib body gateway
  let body := (putU32 lib.toLibnl body (attrtype RTA_OIF) idx).2
  pure { msg with body := body }

end Building

/-! ## What a message is to say -/

/-- A request, with the interfaces by their indexes. -/
inductive RtnlRequest where
  | addVlan (name : String) (parentIdx : Int32) (vid : UInt16)
  | del (idx : Int32)
  | setFlags (idx : Int32) (flags change : UInt32)
  | addr (new : Bool) (idx : Int32) (address : Ipv4Addr) (prefixLen : UInt8)
  | route (new : Bool) (dst : Ipv4Addr) (prefixLen : UInt8) (gateway : Option Ipv4Addr)
      (idx : UInt32)
  deriving DecidableEq, Repr

/-- A string with its NUL. -/
def textBytes (s : String) : Bytes := s.toUTF8.data.toList ++ [0]

namespace RtnlRequest

/-- The message that the method of a request builds. -/
def build (lib : Rtnl) : RtnlRequest → Except BuildError RtMsg
  | addVlan name parentIdx vid => addVlanMsg lib name parentIdx vid
  | del idx => delMsg lib idx
  | setFlags idx flags change => setFlagsMsg lib idx flags change
  | addr new idx address prefixLen =>
      addrMsg lib (if new then RTM_NEWADDR else RTM_DELADDR) idx address prefixLen
  | route new dst prefixLen gateway idx =>
      routeMsg lib (if new then RTM_NEWROUTE else RTM_DELROUTE) dst prefixLen gateway idx

/-- The header. -/
def header : RtnlRequest → RtMsg
  | addVlan .. => ⟨RTM_NEWLINK, 0x605, ⟨[]⟩⟩
  | del _ => ⟨RTM_DELLINK, 0x5, ⟨[]⟩⟩
  | setFlags .. => ⟨RTM_SETLINK, 0x5, ⟨[]⟩⟩
  | addr new .. => ⟨if new then RTM_NEWADDR else RTM_DELADDR, 0, ⟨[]⟩⟩
  | route new .. => ⟨if new then RTM_NEWROUTE else RTM_DELROUTE, 0, ⟨[]⟩⟩

/-- The record behind it. -/
def fields : RtnlRequest → List (Nat × Nat)
  | addVlan .. => (buildIfi 0 0 0).fields
  | del idx => (buildIfi idx 0 0).fields
  | setFlags idx flags change => (buildIfi idx flags change).fields
  | addr _ idx _ prefixLen => Ifaddrmsg.fields ⟨AF_INET, prefixLen, 0, 0, idx.toUInt32⟩
  | route _ _ prefixLen _ _ => Rtmsg.fields ⟨AF_INET, prefixLen, 0, 0, 0, 0, 0, 0, 0⟩

/-- The attributes. -/
def attrs (order : ByteOrder) : RtnlRequest → Attrs
  | addVlan name parentIdx vid =>
      .leaf ⟨IFLA_IFNAME, textBytes name⟩
        (.leaf ⟨IFLA_LINK, toBytesNe order 4 parentIdx.toUInt32.toNat⟩
          (.nest IFLA_LINKINFO
            (.leaf ⟨IFLA_INFO_KIND, textBytes "vlan"⟩
              (.nest IFLA_INFO_DATA
                (.leaf ⟨IFLA_VLAN_ID, toBytesNe order 2 vid.toNat⟩ .nil) .nil)) .nil))
  | del _ | setFlags .. => .nil
  | addr _ _ address _ =>
      .leaf ⟨IFA_LOCAL, address.octets⟩ (.leaf ⟨IFA_ADDRESS, address.octets⟩ .nil)
  | route _ dst _ gateway idx =>
      .leaf ⟨RTA_DST, dst.octets⟩
        (gateway.elim id (fun gw => .leaf ⟨RTA_GATEWAY, gw.octets⟩)
          (.leaf ⟨RTA_OIF, toBytesNe order 4 idx.toNat⟩ .nil))

/-- `if_nametoindex` knows no other names: they have no NUL in them, and less than `IFNAMSIZ`
bytes, also with the id of a VLAN behind them. -/
def Named : RtnlRequest → Prop
  | addVlan name _ _ =>
      (0 : UInt8) ∉ name.toUTF8.data.toList ∧ name.toUTF8.data.toList.length < 24
  | _ => True

end RtnlRequest

section Spelling

variable (lib : Rtnl)

/-- A message of a record and the attributes that are accepted. -/
def spell (msg : RtMsg) (fields : List (Nat × Nat)) (attrs : Attrs) : Option RtMsg := do
  let msg ← (appendStruct lib msg fields).toOption
  let builder ← (Builder.tries lib.toLibnl ⟨msg.body, []⟩ attrs.tokens).toOption
  some { msg with body := builder.msg }

variable {lib}

theorem putString_eq {msg : NlMsg} {attrtype : Int32} {s : String}
    (plain : (0 : UInt8) ∉ s.toUTF8.data.toList) :
    putString lib.toLibnl msg attrtype s = put lib.toLibnl msg attrtype (textBytes s) := by
  rw [putString, cString, if_neg plain]
  rfl

theorem tries_opening (builder : Builder) (nlaType : UInt16) (calls : List Call) :
    (builder.tries lib.toLibnl (.opening nlaType :: calls)).toOption =
      (nestStart lib.toLibnl builder.msg (attrtype nlaType)).bind fun opened =>
        (Builder.tries lib.toLibnl ⟨opened.2, opened.1 :: builder.nests⟩ calls).toOption := by
  rw [Builder.tries, Builder.try, Builder.call]
  cases nestStart lib.toLibnl builder.msg (attrtype nlaType) with
  | none => rfl
  | some opened => rfl

theorem tries_closing (msg : NlMsg) (nest : Nest) (nests : List Nest) (calls : List Call) :
    (Builder.tries lib.toLibnl ⟨msg, nest :: nests⟩ (.closing :: calls)).toOption =
      (nestEnd lib.toLibnl msg nest).bind fun msg =>
        (Builder.tries lib.toLibnl ⟨msg, nests⟩ calls).toOption := by
  simp only [Builder.tries, Builder.try, Builder.call]
  cases nestEnd lib.toLibnl msg nest with
  | none => rfl
  | some msg => rfl

theorem toOption_orError {α β : Type} {error : BuildError} {value : Option α}
    {next : α → Except BuildError β} :
    (orError error value >>= next).toOption = value.bind fun value => (next value).toOption := by
  cases value with
  | none => rfl
  | some value => rfl

theorem toOption_bind {ε α β : Type} {first : Except ε α} {next : α → Except ε β} :
    (first >>= next).toOption = first.toOption.bind fun value => (next value).toOption := by
  cases first with
  | error error => rfl
  | ok value => rfl

theorem tries_item (builder : Builder) (attr : Attr) (calls : List Call) :
    builder.tries lib.toLibnl (.item attr :: calls) =
      Builder.tries lib.toLibnl
        ⟨(put lib.toLibnl builder.msg (attrtype attr.nlaType) attr.payload).2, builder.nests⟩
        calls := rfl

theorem addVlanMsg_eq_spell {name : String} (plain : (0 : UInt8) ∉ name.toUTF8.data.toList)
    (parentIdx : Int32) (vid : UInt16) :
    (addVlanMsg lib name parentIdx vid).toOption =
      spell lib ⟨RTM_NEWLINK, 0x605, ⟨[]⟩⟩ (buildIfi 0 0 0).fields
        (RtnlRequest.attrs lib.order (.addVlan name parentIdx vid)) := by
  rw [addVlanMsg, toOption_bind, spell]
  refine congrArg _ (funext fun msg => ?_)
  have vlan : (0 : UInt8) ∉ "vlan".toUTF8.data.toList := by decide
  rw [putString_eq plain, toOption_orError]
  simp only [RtnlRequest.attrs, Forest.tokens, List.cons_append, List.nil_append, tries_item,
    tries_opening, Option.bind_eq_bind, Option.bind_assoc]
  refine congrArg _ (funext fun li => ?_)
  rw [putString_eq vlan, toOption_orError]
  refine congrArg _ (funext fun data => ?_)
  rw [toOption_orError, tries_closing, Option.bind_assoc]
  refine congrArg _ (funext fun body => ?_)
  rw [toOption_orError, tries_closing, Option.bind_assoc]
  rfl

theorem toOption_eq_spell {msg : RtMsg} {fields : List (Nat × Nat)} :
    (appendStruct lib msg fields).toOption = spell lib msg fields .nil := by
  rw [spell]
  cases appendStruct lib msg fields with
  | error error => rfl
  | ok msg => rfl

/-- Every request is built from its record and its attributes. -/
theorem build_eq_spell {request : RtnlRequest} (named : request.Named) :
    (request.build lib).toOption =
      spell lib request.header request.fields (request.attrs lib.order) := by
  cases request with
  | addVlan name parentIdx vid => exact addVlanMsg_eq_spell named.1 parentIdx vid
  | del idx => exact toOption_eq_spell
  | setFlags idx flags change => exact toOption_eq_spell
  | addr new idx address prefixLen => exact toOption_bind
  | route new dst prefixLen gateway idx =>
      cases gateway with
      | none => exact toOption_bind
      | some gw => exact toOption_bind

end Spelling

/-! ## Reading -/

/-- What is assumed of `nlmsg_append`: unless it fails, the data stands at the end of the message,
padded. -/
structure Rtnl.Lawful (lib : Rtnl) : Prop extends lib.toLibnl.Steady where
  nlmsgAppend_appends : ∀ (msg : NlMsg) (data : Bytes),
    ¬(lib.nlmsgAppend msg data (.ofNat NLMSG_ALIGNTO)).1 < 0 →
    ∃ padding : Bytes, data.length + padding.length = nlmsgAlign data.length ∧
      (lib.nlmsgAppend msg data (.ofNat NLMSG_ALIGNTO)).2.payload =
        msg.payload ++ (data ++ padding)

/-- Neither `nla_put` nor `nlmsg_append` fails. -/
def Rtnl.Accepts (lib : Rtnl) : Prop :=
  lib.toLibnl.Accepts ∧
    ∀ (msg : NlMsg) (data : Bytes), ¬(lib.nlmsgAppend msg data (.ofNat NLMSG_ALIGNTO)).1 < 0

/-- The record of these widths that a message begins with, and the attributes behind it. -/
def readMessage (lib : Rtnl) (widths : List Nat) (msg : RtMsg) : Option (List Nat × Attrs) := do
  let values ← unpackNe lib.order widths msg.body.payload
  let attrs ← readRegion lib.toLibnl msg.body (nlmsgAlign (NLMSG_HDRLEN + widths.sum))
  some (values, attrs)

theorem Grown.payload {msg msg' : NlMsg} {bytes : Bytes} (grown : Grown msg bytes msg') :
    ∃ more, msg'.payload = msg.payload ++ more := by
  rcases grown with ⟨_, rfl⟩ | ⟨gap, _, payload⟩
  · exact ⟨[], (List.append_nil _).symm⟩
  · exact ⟨gap ++ bytes, by rw [payload, List.append_assoc]⟩

section Reading

variable {lib : Rtnl} {header msg : RtMsg} {fields : List (Nat × Nat)} {attrs : Attrs}

theorem toOption_eq_some {ε α : Type} {result : Except ε α} {value : α} :
    result.toOption = some value ↔ result = .ok value := by
  cases result with
  | error error => exact iff_of_false (fun same => by cases same) fun same => by cases same
  | ok found =>
      constructor
      · intro same
        exact congrArg _ (Option.some.inj same)
      · intro same
        exact congrArg _ (Except.ok.inj same)

/-- A record at the start of a message. -/
theorem appendStruct_ok (lawful : lib.Lawful) (fresh : header.body.payload = [])
    (fits : ∀ field ∈ fields, field.2 < 256 ^ field.1)
    (appended : appendStruct lib header fields = .ok msg) :
    msg.nlmsgType = header.nlmsgType ∧ msg.nlmsgFlags = header.nlmsgFlags ∧
      ∃ padding, msg.body.payload = packNe lib.order fields ++ padding ∧
        nlmsgAlign msg.body.nlmsgLen = nlmsgAlign (NLMSG_HDRLEN + (fields.map Prod.fst).sum) := by
  rw [appendStruct] at appended
  split at appended
  · cases appended
  next accepted =>
    cases appended
    obtain ⟨padding, padded, payload⟩ := lawful.nlmsgAppend_appends _ _ accepted
    rw [fresh, List.nil_append] at payload
    rw [length_packNe lib.order fits, nlmsgAlign_eq] at padded
    refine ⟨rfl, rfl, padding, payload, ?_⟩
    rw [NlMsg.nlmsgLen, payload, List.length_append, length_packNe lib.order fits, padded,
      nlmsgAlign_eq, nlmsgAlign_eq, NLMSG_HDRLEN]
    omega

/-- A message that is spelled is read as its record and what is accepted of its attributes. -/
theorem readMessage_spell (lawful : lib.Lawful) (fresh : header.body.payload = [])
    (fits : ∀ field ∈ fields, field.2 < 256 ^ field.1)
    (below : ∀ call ∈ attrs.tokens, TypeBelow 0x4000 call)
    (small : (attrs.tokens.map wireSize).sum < 65536)
    (spelled : spell lib header fields attrs = some msg) :
    msg.nlmsgType = header.nlmsgType ∧ msg.nlmsgFlags = header.nlmsgFlags ∧
      ∃ start sent, appendStruct lib header fields = .ok start ∧
        Pruned lib.toLibnl start.body attrs sent msg.body ∧
        readMessage lib (fields.map Prod.fst) msg = some (fields.map Prod.snd, sent) := by
  obtain ⟨start, started, spelled⟩ := Option.bind_eq_some_iff.mp spelled
  obtain ⟨builder, tried, done⟩ := Option.bind_eq_some_iff.mp spelled
  cases done
  rw [toOption_eq_some] at started tried
  obtain ⟨sameType, sameFlags, padding, payload, begins⟩ :=
    appendStruct_ok lawful fresh fits started
  have success : Builder.tries lib.toLibnl ⟨start.body, []⟩ attrs.tokens ≠ .error .refused :=
    fun refused => by cases refused.symm.trans tried
  obtain ⟨body, bytes, sent, ran, pruned, encodes, grown, length⟩ :=
    tries_tokens lawful.toSteady attrs below (by omega) success
  cases ran.symm.trans tried
  refine ⟨sameType, sameFlags, start, sent, started, pruned, ?_⟩
  obtain ⟨more, all⟩ := grown.payload
  obtain ⟨len, after, region⟩ := grown.region
  have found : readRegion lib.toLibnl body (nlmsgAlign start.body.nlmsgLen) = some sent := by
    have read := readAttrs_encodes lawful.toLawful encodes (by omega) after _ (Nat.lt_succ_self _)
    rwa [← region, ← len] at read
  have values := unpackNe_packNe lib.order fits (padding ++ more)
  rw [← List.append_assoc, ← payload, ← all] at values
  simp only [readMessage, values, ← begins, found, Option.bind_eq_bind, Option.bind_some]

end Reading

/-! ## Decoding -/

section Decoding

/-- The payload of the first attribute of a type that is not nested. -/
def leafOf (nlaType : UInt16) : Attrs → Option Bytes
  | .nil => none
  | .leaf attr rest => if attr.nlaType = nlaType then some attr.payload else leafOf nlaType rest
  | .nest _ _ rest => leafOf nlaType rest

/-- The attributes in the first nested one of a type. -/
def nestOf (nlaType : UInt16) : Attrs → Option Attrs
  | .nil => none
  | .leaf _ rest => nestOf nlaType rest
  | .nest outer children rest => if outer = nlaType then some children else nestOf nlaType rest

/-- The string up to the first NUL. -/
def textOf (payload : Bytes) : Option String :=
  String.fromUTF8? ⟨(payload.takeWhile (· ≠ 0)).toArray⟩

/-- The number in a payload of this width. -/
def numberOf (order : ByteOrder) (width : Nat) (payload : Bytes) : Option Nat :=
  if payload.length = width then some (fromBytesNe order payload) else none

/-- The address of four bytes. -/
def Ipv4Addr.ofOctets : Bytes → Option Ipv4Addr
  | [a, b, c, d] => some ⟨a, b, c, d⟩
  | _ => none

/-- A signed index. -/
def indexOf (value : Nat) : Int32 := (UInt32.ofNat value).toInt32

@[simp] theorem indexOf_toNat (idx : Int32) : indexOf idx.toUInt32.toNat = idx := by
  rw [indexOf, UInt32.ofNat_toNat, Int32.toInt32_toUInt32]

/-- The widths of the fields of the record that messages of a type begin with. -/
def recordWidths (nlmsgType : UInt16) : Option (List Nat) :=
  if nlmsgType ∈ [RTM_NEWLINK, RTM_DELLINK, RTM_SETLINK] then some [1, 1, 2, 4, 4, 4]
  else if nlmsgType ∈ [RTM_NEWADDR, RTM_DELADDR] then some [1, 1, 1, 1, 4]
  else if nlmsgType ∈ [RTM_NEWROUTE, RTM_DELROUTE] then some [1, 1, 1, 1, 1, 1, 1, 1, 4]
  else none

/-- A new interface, which is to be a VLAN. -/
def decodeNewLink (order : ByteOrder) (attrs : Attrs) : Option RtnlRequest := do
  let name ← (leafOf IFLA_IFNAME attrs).bind textOf
  let parentIdx ← (leafOf IFLA_LINK attrs).bind (numberOf order 4)
  let info ← nestOf IFLA_LINKINFO attrs
  let kind ← (leafOf IFLA_INFO_KIND info).bind textOf
  guard (kind = "vlan")
  let data ← nestOf IFLA_INFO_DATA info
  let vid ← (leafOf IFLA_VLAN_ID data).bind (numberOf order 2)
  some (.addVlan name (indexOf parentIdx) (.ofNat vid))

/-- An interface to delete. -/
def decodeDelLink : List Nat → Option RtnlRequest
  | [_, _, _, idx, _, _] => some (.del (indexOf idx))
  | _ => none

/-- The flags of an interface. -/
def decodeSetLink : List Nat → Option RtnlRequest
  | [_, _, _, idx, flags, change] =>
      some (.setFlags (indexOf idx) (.ofNat flags) (.ofNat change))
  | _ => none

/-- An address to add or delete. -/
def decodeAddr (new : Bool) (attrs : Attrs) : List Nat → Option RtnlRequest
  | [_, prefixLen, _, _, idx] => do
      let address ← (leafOf IFA_LOCAL attrs).bind Ipv4Addr.ofOctets
      some (.addr new (indexOf idx) address (.ofNat prefixLen))
  | _ => none

/-- A route to add or delete. -/
def decodeRoute (order : ByteOrder) (new : Bool) (attrs : Attrs) : List Nat → Option RtnlRequest
  | [_, prefixLen, _, _, _, _, _, _, _] => do
      let dst ← (leafOf RTA_DST attrs).bind Ipv4Addr.ofOctets
      let idx ← (leafOf RTA_OIF attrs).bind (numberOf order 4)
      let gateway := (leafOf RTA_GATEWAY attrs).bind Ipv4Addr.ofOctets
      some (.route new dst (.ofNat prefixLen) gateway (.ofNat idx))
  | _ => none

/-- The request of a type with these values in its record and these attributes. -/
def decodeParts (order : ByteOrder) (nlmsgType : UInt16) (values : List Nat) (attrs : Attrs) :
    Option RtnlRequest :=
  if nlmsgType = RTM_NEWLINK then decodeNewLink order attrs
  else if nlmsgType = RTM_DELLINK then decodeDelLink values
  else if nlmsgType = RTM_SETLINK then decodeSetLink values
  else if nlmsgType = RTM_NEWADDR then decodeAddr true attrs values
  else if nlmsgType = RTM_DELADDR then decodeAddr false attrs values
  else if nlmsgType = RTM_NEWROUTE then decodeRoute order true attrs values
  else if nlmsgType = RTM_DELROUTE then decodeRoute order false attrs values
  else none

variable (lib : Rtnl)

/-- The request that a message says. -/
def decode (msg : RtMsg) : Option RtnlRequest := do
  let widths ← recordWidths msg.nlmsgType
  let found ← readMessage lib widths msg
  decodeParts lib.order msg.nlmsgType found.1 found.2

variable {lib} {request : RtnlRequest} {msg : RtMsg}

theorem textOf_textBytes {s : String} (plain : (0 : UInt8) ∉ s.toUTF8.data.toList) :
    textOf (textBytes s) = some s := by
  rw [textOf, textBytes, takeWhile_terminated plain, fromUTF8?_toUTF8]

theorem numberOf_toBytesNe (order : ByteOrder) (width : Nat) {value : Nat}
    (fits : value < 256 ^ width) :
    numberOf order width (toBytesNe order width value) = some value := by
  rw [numberOf, if_pos (length_toBytesNe order fits), fromBytesNe_toBytesNe]

theorem ofOctets_octets (address : Ipv4Addr) :
    Ipv4Addr.ofOctets address.octets = some address := rfl

theorem recordWidths_header (request : RtnlRequest) :
    recordWidths request.header.nlmsgType = some (request.fields.map Prod.fst) := by
  cases request with
  | addVlan name parentIdx vid => rfl
  | del idx => rfl
  | setFlags idx flags change => rfl
  | addr new idx address prefixLen => cases new <;> rfl
  | route new dst prefixLen gateway idx => cases new <;> rfl

theorem decodeNewLink_attrs {order : ByteOrder} {name : String} {parentIdx : Int32} {vid : UInt16}
    (plain : (0 : UInt8) ∉ name.toUTF8.data.toList) :
    decodeNewLink order (RtnlRequest.attrs order (.addVlan name parentIdx vid)) =
      some (.addVlan name parentIdx vid) := by
  have vlan : (0 : UInt8) ∉ "vlan".toUTF8.data.toList := by decide
  have parent := numberOf_toBytesNe order 4 parentIdx.toUInt32.toNat_lt
  have id := numberOf_toBytesNe order 2 vid.toNat_lt
  simp [decodeNewLink, RtnlRequest.attrs, leafOf, nestOf, textOf_textBytes plain,
    textOf_textBytes vlan, parent, id, IFLA_IFNAME, IFLA_LINK, IFLA_LINKINFO, IFLA_INFO_KIND,
    IFLA_INFO_DATA, IFLA_VLAN_ID]

theorem decodeRoute_attrs {order : ByteOrder} (new : Bool) (dst : Ipv4Addr) (prefixLen : UInt8)
    (gateway : Option Ipv4Addr) (idx : UInt32) :
    decodeRoute order new (RtnlRequest.attrs order (.route new dst prefixLen gateway idx))
      [2, prefixLen.toNat, 0, 0, 0, 0, 0, 0, 0] = some (.route new dst prefixLen gateway idx) := by
  have oif := numberOf_toBytesNe order 4 idx.toNat_lt
  cases gateway with
  | none =>
      simp [decodeRoute, RtnlRequest.attrs, leafOf, ofOctets_octets, oif, RTA_DST, RTA_OIF,
        RTA_GATEWAY]
  | some gw =>
      simp [decodeRoute, RtnlRequest.attrs, leafOf, ofOctets_octets, oif, RTA_DST, RTA_OIF,
        RTA_GATEWAY]

/-- The parts of a request say it. -/
theorem decodeParts_header {order : ByteOrder} (named : request.Named) :
    decodeParts order request.header.nlmsgType (request.fields.map Prod.snd)
      (request.attrs order) = some request := by
  cases request with
  | addVlan name parentIdx vid => exact decodeNewLink_attrs named.1
  | del idx =>
      have back : some (RtnlRequest.del (indexOf idx.toUInt32.toNat)) = some (.del idx) := by simp
      exact back
  | setFlags idx flags change =>
      have back : some (RtnlRequest.setFlags (indexOf idx.toUInt32.toNat) (.ofNat flags.toNat)
          (.ofNat change.toNat)) = some (.setFlags idx flags change) := by simp
      exact back
  | addr new idx address prefixLen =>
      have back : some (RtnlRequest.addr new (indexOf idx.toUInt32.toNat) address
          (.ofNat prefixLen.toNat)) = some (.addr new idx address prefixLen) := by simp
      cases new with
      | true => exact back
      | false => exact back
  | route new dst prefixLen gateway idx =>
      cases new with
      | true => exact decodeRoute_attrs true dst prefixLen gateway idx
      | false => exact decodeRoute_attrs false dst prefixLen gateway idx

/-- A message of the type, the record and the attributes of a request says that request. -/
theorem decode_eq (named : request.Named) (sameType : msg.nlmsgType = request.header.nlmsgType)
    (found : readMessage lib (request.fields.map Prod.fst) msg =
      some (request.fields.map Prod.snd, request.attrs lib.order)) :
    decode lib msg = some request := by
  simp only [decode, sameType, recordWidths_header, found, Option.bind_eq_bind, Option.bind_some,
    decodeParts_header named]

end Decoding

/-! ## Round trip -/

section RoundTrip

variable {lib : Rtnl} {request : RtnlRequest}

theorem Ifinfomsg.fields_fit (ifi : Ifinfomsg) :
    ∀ field ∈ ifi.fields, field.2 < 256 ^ field.1 := by
  simp only [Ifinfomsg.fields, List.forall_mem_cons]
  exact ⟨ifi.ifiFamily.toNat_lt, ifi.ifiPad.toNat_lt, ifi.ifiType.toNat_lt,
    ifi.ifiIndex.toUInt32.toNat_lt, ifi.ifiFlags.toNat_lt, ifi.ifiChange.toNat_lt,
    List.forall_mem_nil _⟩

theorem Ifaddrmsg.fields_fit (ifa : Ifaddrmsg) :
    ∀ field ∈ ifa.fields, field.2 < 256 ^ field.1 := by
  simp only [Ifaddrmsg.fields, List.forall_mem_cons]
  exact ⟨ifa.ifaFamily.toNat_lt, ifa.ifaPrefixlen.toNat_lt, ifa.ifaFlags.toNat_lt,
    ifa.ifaScope.toNat_lt, ifa.ifaIndex.toNat_lt, List.forall_mem_nil _⟩

theorem Rtmsg.fields_fit (rtm : Rtmsg) : ∀ field ∈ rtm.fields, field.2 < 256 ^ field.1 := by
  simp only [Rtmsg.fields, List.forall_mem_cons]
  exact ⟨rtm.rtmFamily.toNat_lt, rtm.rtmDstLen.toNat_lt, rtm.rtmSrcLen.toNat_lt,
    rtm.rtmTos.toNat_lt, rtm.rtmTable.toNat_lt, rtm.rtmProtocol.toNat_lt, rtm.rtmScope.toNat_lt,
    rtm.rtmType.toNat_lt, rtm.rtmFlags.toNat_lt, List.forall_mem_nil _⟩

theorem RtnlRequest.fields_fit (request : RtnlRequest) :
    ∀ field ∈ request.fields, field.2 < 256 ^ field.1 := by
  cases request with
  | addVlan name parentIdx vid => exact Ifinfomsg.fields_fit _
  | del idx => exact Ifinfomsg.fields_fit _
  | setFlags idx flags change => exact Ifinfomsg.fields_fit _
  | addr new idx address prefixLen => exact Ifaddrmsg.fields_fit _
  | route new dst prefixLen gateway idx => exact Rtmsg.fields_fit _

theorem RtnlRequest.attrs_below (order : ByteOrder) (request : RtnlRequest) :
    ∀ call ∈ (request.attrs order).tokens, TypeBelow 0x4000 call := by
  cases request with
  | addVlan name parentIdx vid =>
      simp [RtnlRequest.attrs, Forest.tokens, TypeBelow, IFLA_IFNAME, IFLA_LINK, IFLA_LINKINFO,
        IFLA_INFO_KIND, IFLA_INFO_DATA, IFLA_VLAN_ID]
  | del idx => exact List.forall_mem_nil _
  | setFlags idx flags change => exact List.forall_mem_nil _
  | addr new idx address prefixLen =>
      simp [RtnlRequest.attrs, Forest.tokens, TypeBelow, IFA_LOCAL, IFA_ADDRESS]
  | route new dst prefixLen gateway idx =>
      cases gateway with
      | none => simp [RtnlRequest.attrs, Forest.tokens, TypeBelow, RTA_DST, RTA_OIF]
      | some gw => simp [RtnlRequest.attrs, Forest.tokens, TypeBelow, RTA_DST, RTA_OIF, RTA_GATEWAY]

theorem RtnlRequest.attrs_small (order : ByteOrder) (named : request.Named) :
    ((request.attrs order).tokens.map wireSize).sum < 65536 := by
  cases request with
  | addVlan name parentIdx vid =>
      have short := named.2
      have number : (toBytesNe order 4 parentIdx.toUInt32.toNat).length = 4 :=
        length_toBytesNe order parentIdx.toUInt32.toNat_lt
      have id : (toBytesNe order 2 vid.toNat).length = 2 := length_toBytesNe order vid.toNat_lt
      have kind : (textBytes "vlan").length = 5 := by decide
      simp only [RtnlRequest.attrs, Forest.tokens, List.map_cons, List.map_append, List.map_nil,
        List.sum_cons, List.sum_append, List.sum_nil, wireSize, nlaAlign_eq, number, id, kind,
        NLA_HDRLEN]
      rw [textBytes, List.length_append, List.length_singleton]
      omega
  | del idx => exact Nat.zero_lt_succ _
  | setFlags idx flags change => exact Nat.zero_lt_succ _
  | addr new idx address prefixLen =>
      simp [RtnlRequest.attrs, Forest.tokens, wireSize, nlaAlign_eq, NLA_HDRLEN, Ipv4Addr.octets]
  | route new dst prefixLen gateway idx =>
      have number : (toBytesNe order 4 idx.toNat).length = 4 :=
        length_toBytesNe order idx.toNat_lt
      cases gateway with
      | none =>
          simp [RtnlRequest.attrs, Forest.tokens, wireSize, nlaAlign_eq, number, NLA_HDRLEN,
            Ipv4Addr.octets]
      | some gw =>
          simp [RtnlRequest.attrs, Forest.tokens, wireSize, nlaAlign_eq, number, NLA_HDRLEN,
            Ipv4Addr.octets]

theorem RtnlRequest.header_fresh (request : RtnlRequest) : request.header.body.payload = [] := by
  cases request <;> rfl

/-- Where nothing is refused, a request is built. -/
theorem build_accepts (lawful : lib.Lawful) (named : request.Named) (accepts : lib.Accepts) :
    ∃ msg, request.build lib = .ok msg := by
  have started : appendStruct lib request.header request.fields = .ok _ := if_neg (accepts.2 _ _)
  generalize RtMsg.mk _ _ _ = start at started
  have small := request.attrs_small lib.order named
  have accepted : Builder.tries lib.toLibnl ⟨start.body, []⟩ (request.attrs lib.order).tokens ≠
      .error .refused := tries_ne_refused accepts.1 _
  obtain ⟨body, _, _, ran, _⟩ := tries_tokens lawful.toSteady (request.attrs lib.order)
    (request.attrs_below lib.order) (by omega) accepted
  have spelled : (request.build lib).toOption = some { start with body := body } := by
    rw [build_eq_spell named, spell, started]
    simp only [Except.toOption, Option.bind_eq_bind, Option.bind_some, ran]
  exact ⟨_, toOption_eq_some.mp spelled⟩

/-- A request that is built is of its type, with its record, and with the attributes that the calls
for them leave. -/
theorem readMessage_build (lawful : lib.Lawful) (named : request.Named) {msg : RtMsg}
    (built : request.build lib = .ok msg) :
    msg.nlmsgType = request.header.nlmsgType ∧ msg.nlmsgFlags = request.header.nlmsgFlags ∧
      ∃ start sent, appendStruct lib request.header request.fields = .ok start ∧
        Pruned lib.toLibnl start.body (request.attrs lib.order) sent msg.body ∧
        readMessage lib (request.fields.map Prod.fst) msg =
          some (request.fields.map Prod.snd, sent) :=
  readMessage_spell lawful request.header_fresh request.fields_fit
    (request.attrs_below lib.order) (request.attrs_small lib.order named)
    ((build_eq_spell named).symm.trans (toOption_eq_some.mpr built))

/-- A message means its request, unless one of its leaves has been refused. -/
theorem decode_build (lawful : lib.Lawful) (keeps : lib.toLibnl.Keeps) (named : request.Named)
    {msg : RtMsg} (built : request.build lib = .ok msg) : decode lib msg = some request := by
  obtain ⟨sameType, _, start, sent, _, pruned, found⟩ := readMessage_build lawful named built
  rw [pruned.eq_of_keeps keeps (request.attrs_below lib.order)] at found
  exact decode_eq named sameType found

/-- A request that is built is of its type, with its record, and with its attributes less exactly
the leaves that were refused; where nothing is refused, it is built, and its message says it. -/
theorem requests_read (lawful : lib.Lawful) (named : request.Named) :
    (lib.Accepts → ∃ msg, request.build lib = .ok msg ∧ decode lib msg = some request) ∧
      ∀ msg, request.build lib = .ok msg →
        msg.nlmsgType = request.header.nlmsgType ∧ msg.nlmsgFlags = request.header.nlmsgFlags ∧
          ∃ start sent, appendStruct lib request.header request.fields = .ok start ∧
            Pruned lib.toLibnl start.body (request.attrs lib.order) sent msg.body ∧
            readMessage lib (request.fields.map Prod.fst) msg =
              some (request.fields.map Prod.snd, sent) := by
  refine ⟨fun accepts => ?_, fun msg built => readMessage_build lawful named built⟩
  obtain ⟨msg, built⟩ := build_accepts lawful named accepts
  exact ⟨msg, built, decode_build lawful accepts.1.keeps named built⟩

/-! ## A library that keeps the assumptions -/

/-- It never fails, and pads with zeros. -/
def Rtnl.zeroPadding (order : ByteOrder) : Rtnl where
  toLibnl := Libnl.zeroPadding order
  nlmsgAppend msg data _ :=
    (0, ⟨msg.payload ++ (data ++ List.replicate (nlmsgAlign data.length - data.length) 0)⟩)

theorem Rtnl.lawful_zeroPadding (order : ByteOrder) : (Rtnl.zeroPadding order).Lawful where
  toSteady := Libnl.steady_zeroPadding order
  nlmsgAppend_appends msg data _ := by
    refine ⟨List.replicate (nlmsgAlign data.length - data.length) 0, ?_, rfl⟩
    rw [List.length_replicate, nlmsgAlign_eq]
    omega

theorem Rtnl.accepts_zeroPadding (order : ByteOrder) : (Rtnl.zeroPadding order).Accepts :=
  ⟨fun _ _ _ _ => (by decide : ¬(0 : Int32) < 0), fun _ _ => (by decide : ¬(0 : Int32) < 0)⟩

/-- A VLAN interface over the interface with the index 3. -/
def sampleRequest : RtnlRequest := .addVlan "eth0.835" 3 835

theorem requests_read_sampleRequest :
    ∃ msg, sampleRequest.build (.zeroPadding .big) = .ok msg ∧
      decode (.zeroPadding .big) msg = some sampleRequest := by
  have named : sampleRequest.Named := ⟨by decide, by decide⟩
  exact (requests_read (Rtnl.lawful_zeroPadding .big) named).1 (Rtnl.accepts_zeroPadding .big)

end RoundTrip

end RbctlDsl.Netlink
