import Mathlib.Data.List.Forall2
import Mathlib.Data.List.TakeWhile
import RbctlDsl.Lib.Bpf
import RbctlDsl.Dsl.Pcap
import RbctlDsl.Lib.Result
import RbctlDsl.Lib.Text
import RbctlDsl.Proto.Wire

/-!
# The raw socket

`af_packet`: the filter that a socket of the daemon is opened with, and the address that is read
for it.
-/

namespace RbctlDsl.Dsl

open RbctlDsl.Lib
open RbctlDsl.Proto (Mac WireFrame ethtypeBoard)

/-! ## The filter -/

def BPF_LD_H_ABS : UInt16 := 0x28

def BPF_JEQ_K : UInt16 := 0x15

def BPF_RET_K : UInt16 := 0x06

def ethertypeBpfK (ethertype : UInt16) : UInt32 := ethertype.toUInt32

def buildBpf (ethertype : UInt16) : List Bpf.SockFilter := [
  ⟨BPF_LD_H_ABS, 0, 0, 12⟩,
  ⟨BPF_JEQ_K, 1, 0, ethertypeBpfK ethertype⟩,
  ⟨BPF_RET_K, 0, 0, 0⟩,
  ⟨BPF_RET_K, 0, 0, 0xFFFF⟩]

def hasEthertype (ethertype : UInt16) (packet : Bytes) : Bool :=
  be16At? packet 12 == some ethertype

/-- `ETH_P_ALL`. -/
def ETH_P_ALL : UInt16 := 0x0003

/-- A packet on an interface, with the protocol that the kernel knows it by: on the way in it is the
ethertype, unless that is the length of an older frame. -/
structure Packet where
  data : Bytes
  protocol : UInt16
  outgoing : Bool
  typed : outgoing = false → ∀ ethertype : UInt16, 0x600 ≤ ethertype →
    (protocol == ethertype) = hasEthertype ethertype data

/-- The packets that a packet socket is offered for the protocol that it is bound to.  Only one that
is bound to all of them gets what is sent. -/
def offers (protocol : UInt16) (packet : Packet) : Bool :=
  protocol == ETH_P_ALL || (packet.protocol == protocol && !packet.outgoing)

/-- What is delivered of some packets, for the filter that `open_inner` is called with: the socket
is bound to the protocol of its filter, and to all of them without one. -/
def packetsDelivered (filter : Option UInt16) (packets : List Packet) : List Bytes :=
  let offered := (packets.filter (offers (filter.getD ETH_P_ALL))).map Packet.data
  match filter with
  | none => offered
  | some ethertype => offered.filterMap (Bpf.kept (buildBpf ethertype))

theorem checked_buildBpf (ethertype : UInt16) : Bpf.Checked (buildBpf ethertype) :=
  ⟨rfl, rfl, rfl, rfl, trivial⟩

theorem kept_buildBpf (ethertype : UInt16) (packet : Bytes) :
    Bpf.kept (buildBpf ethertype) packet =
      if hasEthertype ethertype packet then some (packet.take 65535) else none := by
  have compare (found : UInt16) : (found.toUInt32 == ethertypeBpfK ethertype) =
      (some found == some ethertype) := by
    rw [Bool.eq_iff_iff, beq_iff_eq, beq_iff_eq, Option.some_inj, ethertypeBpfK]
    exact UInt16.toUInt32_inj
  have load : Bpf.SockFilter.insn ⟨BPF_LD_H_ABS, 0, 0, 12⟩ = some (.load .half 12) := rfl
  have jump : Bpf.SockFilter.insn ⟨BPF_JEQ_K, 1, 0, ethertypeBpfK ethertype⟩ =
    some (.jump .equal (ethertypeBpfK ethertype) 1 0) := rfl
  have ret (k : UInt32) : Bpf.SockFilter.insn ⟨BPF_RET_K, 0, 0, k⟩ = some (.ret k) := rfl
  cases there : be16At? packet 12 with
  | none => simp [Bpf.kept, buildBpf, hasEthertype, there, Bpf.run, load, Bpf.Insn.next,
      Bpf.Width.read]
  | some found =>
      rw [hasEthertype, there, ← compare]
      cases same : found.toUInt32 == ethertypeBpfK ethertype with
      | false =>
          simp [Bpf.kept, buildBpf, there, Bpf.run, load, jump, ret, Bpf.Insn.next,
            Bpf.Width.read, Bpf.Comparison.holds, same]
      | true =>
          simp [Bpf.kept, buildBpf, there, Bpf.run, load, jump, ret, Bpf.Insn.next,
            Bpf.Width.read, Bpf.Comparison.holds, same]

theorem filterMap_kept (ethertype : UInt16) (packets : List Bytes) :
    packets.filterMap (Bpf.kept (buildBpf ethertype)) =
      (packets.filter (hasEthertype ethertype)).map (List.take 65535) := by
  induction packets with
  | nil => rfl
  | cons packet packets ih =>
      rw [List.filterMap_cons, kept_buildBpf, List.filter_cons]
      cases hasEthertype ethertype packet with
      | false => simpa using ih
      | true => simpa using ih

/-- The packets of an ethertype that come in. -/
def arrived (ethertype : UInt16) (packets : List Packet) : List Bytes :=
  ((packets.filter (!·.outgoing)).map Packet.data).filter (hasEthertype ethertype)

theorem packetsDelivered_some {ethertype : UInt16} (typed : 0x600 ≤ ethertype)
    (packets : List Packet) :
    packetsDelivered (some ethertype) packets =
      (arrived ethertype packets).map (List.take 65535) := by
  have other : (ethertype == ETH_P_ALL) = false := by
    rw [beq_eq_false_iff_ne]
    rintro rfl
    exact absurd typed (by decide)
  rw [packetsDelivered, Option.getD_some, filterMap_kept, arrived]
  congr 1
  rw [List.filter_map, List.filter_map, List.filter_filter, List.filter_filter]
  congr 1
  refine List.filter_congr fun packet _ => ?_
  rw [offers, other, Bool.false_or, Function.comp_apply]
  cases out : packet.outgoing with
  | true => simp
  | false => rw [packet.typed out ethertype typed]; simp

/-- The type of a frame stands where the filter looks for it. -/
theorem hasEthertype_bytes (ethertype : UInt16) (frame : WireFrame) :
    hasEthertype ethertype frame.bytes = (frame.ethertype == ethertype) := by
  have layout : frame.bytes = (frame.dst.octets ++ frame.src.octets) ++
      (beBytes16 frame.ethertype ++ (frame.lead ++
        (beBytes16 frame.stored ++ (frame.payload ++ frame.padding)))) := by
    simp [WireFrame.bytes, WireFrame.ethernet]
  rw [hasEthertype, layout,
    be16At?_append _ _ _ 12 (by simp [frame.dst.size, frame.src.size]), Option.some_beq_some]

/-- The frames of one of the two protocols are, among all that the sniffer shows, those with its
ethertype. -/
theorem isManagement_iff (packet : Bytes) :
    isManagement packet = (hasEthertype 0x88B5 packet || hasEthertype 0x88B6 packet) := by
  rw [isManagement, ← hasEthertype, ← hasEthertype, Bool.and_eq_right_iff_imp]
  intro either
  have there : (be16At? packet 12).isSome := by
    simp only [hasEthertype, Bool.or_eq_true, beq_iff_eq] at either
    rcases either with found | found <;> rw [found] <;> rfl
  exact decide_eq_true ((be16At?_isSome_iff packet 12).mp there)

theorem perm_management (packets : List Bytes) :
    List.Perm (packets.filter isManagement)
      (packets.filter (hasEthertype 0x88B5) ++ packets.filter (hasEthertype 0x88B6)) := by
  have parts := List.filter_append_perm (hasEthertype 0x88B5) (packets.filter isManagement)
  refine parts.symm.trans (List.Perm.of_eq ?_)
  rw [List.filter_filter, List.filter_filter]
  congr 1
  · refine List.filter_congr fun packet _ => ?_
    rw [isManagement_iff]
    cases hasEthertype 0x88B5 packet <;> rfl
  · refine List.filter_congr fun packet _ => ?_
    rw [isManagement_iff]
    cases found : hasEthertype 0x88B5 packet with
    | false => simp
    | true =>
        have other : be16At? packet 12 = some 0x88B5 := beq_iff_eq.mp found
        rw [hasEthertype, other]
        rfl

/-- A frame of the board's protocols that comes in. -/
def incoming (frame : WireFrame) : Packet where
  data := frame.bytes
  protocol := frame.ethertype
  outgoing := false
  typed _ ethertype _ := (hasEthertype_bytes ethertype frame).symm

/-- The filter of every ethertype passes the check and has a verdict on every packet; the socket is
delivered the packets of that ethertype among those that it is offered, each up to the length that
it asks for.  A socket of the board is delivered the frames of the board that come in.  What the
sniffer shows is what the sockets of the two management protocols are delivered, and what goes
out. -/
theorem packetsDelivered_filtered (packets : List Packet) :
    (∀ ethertype, Bpf.Checked (buildBpf ethertype) ∧
      (∀ packet, ∃ verdict, Bpf.run packet 4 (buildBpf ethertype) 0 = some verdict) ∧
      packetsDelivered (some ethertype) packets =
        (((packets.filter (offers ethertype)).map Packet.data).filter
          (hasEthertype ethertype)).map (List.take 65535)) ∧
    (∀ ethertype, 0x600 ≤ ethertype → packetsDelivered (some ethertype) packets =
      (arrived ethertype packets).map (List.take 65535)) ∧
    (∀ frames : List WireFrame,
      packetsDelivered (some ethtypeBoard) (frames.map incoming) =
        (frames.filter (·.ethertype == ethtypeBoard)).map fun frame => frame.bytes.take 65535) ∧
    List.Perm (((packetsDelivered none packets).filter isManagement).map (List.take 65535))
      ((packetsDelivered (some 0x88B5) packets ++ packetsDelivered (some 0x88B6) packets) ++
        (((packets.filter (·.outgoing)).map Packet.data).filter isManagement).map
          (List.take 65535)) := by
  refine ⟨fun ethertype => ⟨checked_buildBpf ethertype, fun packet => ?_,
    filterMap_kept ethertype _⟩, fun ethertype typed => packetsDelivered_some typed packets,
    fun frames => ?_, ?_⟩
  · exact Bpf.run_of_checked (checked_buildBpf ethertype) (List.cons_ne_nil _ _) packet 0
      (Nat.le_refl _)
  · rw [packetsDelivered_some (by decide), arrived, List.filter_map, List.filter_map,
      List.filter_map, List.map_map, List.map_map, List.filter_filter]
    congr 1
    refine List.filter_congr fun frame _ => ?_
    exact (Bool.and_true _).trans (hasEthertype_bytes ethtypeBoard frame)
  · have sniffed : packetsDelivered none packets = packets.map Packet.data := by
      have all : packets.filter (offers ETH_P_ALL) = packets :=
        List.filter_eq_self.mpr fun _ _ => rfl
      exact congrArg _ all
    have directions := (List.filter_append_perm (!·.outgoing) packets).symm.map Packet.data
    simp only [Bool.not_not, List.map_append] at directions
    have kept := directions.filter isManagement
    rw [List.filter_append] at kept
    rw [sniffed, packetsDelivered_some (by decide), packetsDelivered_some (by decide),
      ← List.map_append, ← List.map_append]
    exact (kept.trans ((perm_management _).append_right _)).map _

/-! ## The address -/

/-- `char::to_digit` for the radix 16. -/
def hexValue (c : Char) : Option Nat :=
  if '0' ≤ c ∧ c ≤ '9' then some (c.toNat - '0'.toNat)
  else if 'a' ≤ c ∧ c ≤ 'f' then some (c.toNat - 'a'.toNat + 10)
  else if 'A' ≤ c ∧ c ≤ 'F' then some (c.toNat - 'A'.toNat + 10)
  else none

/-- The digits of `u8::from_str_radix`, after those that have been read. -/
def readHex (value : Nat) : List Char → Except String Nat
  | [] => .ok value
  | c :: rest =>
    match hexValue c with
    | none => .error "invalid digit found in string"
    | some digit =>
      if value * 16 + digit < 256 then readHex (value * 16 + digit) rest
      else .error "number too large to fit in target type"

/-- `u8::from_str_radix` for the radix 16. -/
def fromStrRadix16 : List Char → Except String UInt8
  | [] => .error "cannot parse integer from empty string"
  | ['+'] => .error "invalid digit found in string"
  | '+' :: digits => (readHex 0 digits).map UInt8.ofNat
  | digits => (readHex 0 digits).map UInt8.ofNat

def parseMac (s : String) : Except String Mac := do
  let mac ← ((trim s).toList.splitOn ':').mapM fromStrRadix16
  if six : mac.length = 6 then .ok ⟨mac, six⟩
  else .error s!"invalid MAC: expected 6 octets, got {mac.length}"

/-- `fs::read_to_string` is a parameter. -/
def readMac (readToString : String → Except String String) (iface : String) :
    Except String Mac := do
  let s ← readToString s!"/sys/class/net/{iface}/address"
  parseMac s

/-- What the kernel writes for an octet. -/
def lowerHex (octet : UInt8) : List Char :=
  [Nat.digitChar (octet.toNat / 16), Nat.digitChar (octet.toNat % 16)]

def addressFile (mac : Mac) : String :=
  String.ofList ([':'].intercalate (mac.octets.map lowerHex) ++ ['\n'])

/-- A file system in which one interface has an address. -/
def sysfs (iface : String) (mac : Mac) (missing path : String) : Except String String :=
  if path = s!"/sys/class/net/{iface}/address" then .ok (addressFile mac) else .error missing

/-! ### Its grammar -/

/-- The number that the values of digits stand for, after a number that has been read. -/
def hexNumber (value : Nat) (values : List Nat) : Nat :=
  values.foldl (fun value digit => value * 16 + digit) value

/-- Digits, after a plus sign or none, that spell an octet. -/
def SpellsOctet (group : List Char) (octet : UInt8) : Prop :=
  ∃ (digits : List Char) (values : List Nat), (group = digits ∨ group = '+' :: digits) ∧
    digits ≠ [] ∧ digits.map hexValue = values.map some ∧ hexNumber 0 values = octet.toNat

theorem le_hexNumber (value : Nat) (values : List Nat) : value ≤ hexNumber value values := by
  induction values generalizing value with
  | nil => exact Nat.le_refl value
  | cons digit values ih =>
      have step := ih (value * 16 + digit)
      rw [hexNumber, List.foldl_cons, ← hexNumber]
      omega

theorem map_hexValue_cons {c : Char} {digit : Nat} (found : hexValue c = some digit)
    {digits : List Char} {values : List Nat} :
    (c :: digits).map hexValue = values.map some ↔
      ∃ rest, values = digit :: rest ∧ digits.map hexValue = rest.map some := by
  constructor
  · intro all
    cases values with
    | nil => cases all
    | cons first rest =>
        rw [List.map_cons, List.map_cons, found, List.cons.injEq, Option.some_inj] at all
        exact ⟨rest, by rw [all.1], all.2⟩
  · rintro ⟨rest, rfl, all⟩
    rw [List.map_cons, List.map_cons, found, all]

/-- A number can only grow, so what fits in the end has fitted all along. -/
theorem readHex_eq_ok {digits : List Char} {value result : Nat} (fits : value < 256) :
    readHex value digits = .ok result ↔
      ∃ values : List Nat, digits.map hexValue = values.map some ∧ result < 256 ∧
        hexNumber value values = result := by
  induction digits generalizing value with
  | nil =>
      constructor
      · rintro ⟨⟩
        exact ⟨[], rfl, fits, rfl⟩
      · rintro ⟨values, all, _, rfl⟩
        cases values with
        | nil => rfl
        | cons digit values => cases all
  | cons c digits ih =>
      rw [readHex]
      cases found : hexValue c with
      | none =>
          refine iff_of_false (fun same => by cases same) ?_
          rintro ⟨values, all, -⟩
          cases values with
          | nil => cases all
          | cons digit values => simp [found] at all
      | some digit =>
          simp only [map_hexValue_cons found]
          split
          · next small =>
              rw [ih small]
              constructor
              · rintro ⟨values, all, below, equal⟩
                exact ⟨digit :: values, ⟨values, rfl, all⟩, below, equal⟩
              · rintro ⟨_, ⟨values, rfl, all⟩, below, equal⟩
                exact ⟨values, all, below, equal⟩
          · next large =>
              refine iff_of_false (fun same => by cases same) ?_
              rintro ⟨_, ⟨values, rfl, -⟩, below, equal⟩
              have grown := le_hexNumber (value * 16 + digit) values
              rw [hexNumber, List.foldl_cons, ← hexNumber] at equal
              omega

theorem readHex_octet {digits : List Char} {octet : UInt8} :
    (readHex 0 digits).map UInt8.ofNat = .ok octet ↔
      ∃ values : List Nat, digits.map hexValue = values.map some ∧
        hexNumber 0 values = octet.toNat := by
  have fits : octet.toNat < 256 := octet.toNat_lt
  constructor
  · intro read
    cases done : readHex 0 digits with
    | error error => rw [done] at read; cases read
    | ok result =>
        obtain ⟨values, all, below, equal⟩ := (readHex_eq_ok (by decide)).mp done
        rw [done] at read
        cases read
        refine ⟨values, all, ?_⟩
        rw [equal, UInt8.toNat_ofNat_of_lt' below]
  · rintro ⟨values, all, equal⟩
    rw [(readHex_eq_ok (by decide)).mpr ⟨values, all, fits, equal⟩]
    exact congrArg Except.ok UInt8.ofNat_toNat

theorem fromStrRadix16_eq_ok {group : List Char} {octet : UInt8} :
    fromStrRadix16 group = .ok octet ↔ SpellsOctet group octet := by
  have plus : hexValue '+' = none := rfl
  -- a group that begins with a plus sign is not made of digits alone
  have signed {digits : List Char} {values : List Nat} :
      ('+' :: digits).map hexValue ≠ values.map some := by
    cases values with
    | nil => simp
    | cons digit values => simp [plus]
  constructor
  · intro read
    unfold fromStrRadix16 at read
    split at read
    · cases read
    · cases read
    · next digits more =>
        obtain ⟨values, all, equal⟩ := readHex_octet.mp read
        exact ⟨digits, values, .inr rfl, more, all, equal⟩
    · next begun _ _ =>
        obtain ⟨values, all, equal⟩ := readHex_octet.mp read
        exact ⟨group, values, .inl rfl, begun, all, equal⟩
  · rintro ⟨digits, values, rfl | rfl, begun, all, equal⟩
    · unfold fromStrRadix16
      split
      · exact absurd rfl begun
      · exact absurd all signed
      · exact absurd all signed
      · exact readHex_octet.mpr ⟨values, all, equal⟩
    · unfold fromStrRadix16
      split
      · next same => cases same
      · next same => cases same; exact absurd rfl begun
      · next same => cases same; exact readHex_octet.mpr ⟨values, all, equal⟩
      · next other => exact absurd rfl (other digits)

theorem mapM_fromStrRadix16 {groups : List (List Char)} {octets : Bytes} :
    groups.mapM fromStrRadix16 = .ok octets ↔ List.Forall₂ SpellsOctet groups octets := by
  induction groups generalizing octets with
  | nil =>
      rw [List.mapM_nil, List.forall₂_nil_left_iff]
      constructor
      · rintro ⟨⟩
        rfl
      · rintro rfl
        rfl
  | cons group groups ih =>
      rw [List.mapM_cons, bind_eq_ok, List.forall₂_cons_left_iff]
      simp only [bind_eq_ok, fromStrRadix16_eq_ok, ih]
      constructor
      · rintro ⟨octet, first, rest, others, ⟨⟩⟩
        exact ⟨octet, rest, first, others, rfl⟩
      · rintro ⟨octet, rest, first, others, rfl⟩
        exact ⟨octet, first, rest, others, rfl⟩

theorem parseMac_eq_ok {s : String} {mac : Mac} :
    parseMac s = .ok mac ↔ List.Forall₂ SpellsOctet ((trim s).toList.splitOn ':') mac.octets := by
  rw [← mapM_fromStrRadix16, parseMac, bind_eq_ok]
  constructor
  · rintro ⟨octets, read, done⟩
    split at done
    · cases done
      exact read
    · cases done
  · intro read
    exact ⟨mac.octets, read, dif_pos mac.size⟩

theorem SpellsOctet.isSome {group : List Char} {octet : UInt8} (spells : SpellsOctet group octet)
    {c : Char} (member : c ∈ group) : c = '+' ∨ (hexValue c).isSome := by
  obtain ⟨digits, values, shape, _, all, _⟩ := spells
  have inside (member : c ∈ digits) : (hexValue c).isSome := by
    have found : hexValue c ∈ values.map some := all ▸ List.mem_map_of_mem member
    obtain ⟨digit, _, equal⟩ := List.mem_map.mp found
    rw [← equal]
    rfl
  rcases shape with rfl | rfl
  · exact .inr (inside member)
  · rcases List.mem_cons.mp member with sign | member
    · exact .inl sign
    · exact .inr (inside member)

theorem exists_spells {groups : List (List Char)} {octets : Bytes}
    (spelled : List.Forall₂ SpellsOctet groups octets) {group : List Char}
    (member : group ∈ groups) : ∃ octet, SpellsOctet group octet := by
  induction spelled with
  | nil => cases member
  | cons first _ ih =>
      rcases List.mem_cons.mp member with rfl | member
      · exact ⟨_, first⟩
      · exact ih member

theorem splitOn_intercalate {groups : List (List Char)} {mac : Mac}
    (spelled : List.Forall₂ SpellsOctet groups mac.octets) :
    ([':'].intercalate groups).splitOn ':' = groups := by
  refine List.splitOn_intercalate ':' (fun group member colon => ?_) (fun empty => ?_)
  · obtain ⟨octet, spells⟩ := exists_spells spelled member
    rcases spells.isSome colon with sign | digit
    · exact absurd sign (by decide)
    · exact absurd digit (by decide)
  · have six : groups.length = 6 := spelled.length_eq.trans mac.size
    rw [empty] at six
    cases six

/-! ### The file of the kernel -/

theorem hexValue_digitChar {digit : Nat} (below : digit < 16) :
    hexValue digit.digitChar = some digit := by
  have all : ∀ digit < 16, hexValue (Nat.digitChar digit) = some digit := by decide
  exact all digit below

theorem spellsOctet_lowerHex (octet : UInt8) : SpellsOctet (lowerHex octet) octet := by
  have fits := octet.toNat_lt
  refine ⟨lowerHex octet, [octet.toNat / 16, octet.toNat % 16], .inl rfl, List.cons_ne_nil _ _,
    ?_, ?_⟩
  · simp only [lowerHex, List.map_cons, List.map_nil]
    rw [hexValue_digitChar (by omega), hexValue_digitChar (by omega)]
  · simp only [hexNumber, List.foldl_cons, List.foldl_nil]
    omega

theorem mem_intercalate {between : List Char} {groups : List (List Char)} {c : Char}
    (member : c ∈ between.intercalate groups) : c ∈ between ∨ ∃ group ∈ groups, c ∈ group := by
  induction groups with
  | nil => simp at member
  | cons group groups ih =>
      by_cases last : groups = []
      · rw [last, List.intercalate_singleton] at member
        exact .inr ⟨group, List.mem_cons_self, member⟩
      · rw [List.intercalate_cons_of_ne_nil last, List.mem_append, List.mem_append] at member
        rcases member with (first | separator) | behind
        · exact .inr ⟨group, List.mem_cons_self, first⟩
        · exact .inl separator
        · rcases ih behind with separator | ⟨other, isOther, inside⟩
          · exact .inl separator
          · exact .inr ⟨other, List.mem_cons_of_mem _ isOther, inside⟩

theorem isWhitespace_addressFile (mac : Mac) {c : Char}
    (member : c ∈ [':'].intercalate (mac.octets.map lowerHex)) : isWhitespace c = false := by
  have digits : ∀ digit < 16, isWhitespace (Nat.digitChar digit) = false := by decide
  rcases mem_intercalate member with colon | ⟨group, isGroup, inside⟩
  · rw [List.mem_singleton.mp colon]
    rfl
  · obtain ⟨octet, _, rfl⟩ := List.mem_map.mp isGroup
    have fits := octet.toNat_lt
    rcases List.mem_cons.mp inside with rfl | low
    · exact digits _ (by omega)
    · rw [List.mem_singleton.mp low]
      exact digits _ (by omega)

/-- The line feed behind a text without white space is trimmed. -/
theorem trim_newline {chars : List Char} (visible : ∀ c ∈ chars, isWhitespace c = false) :
    (trim (String.ofList (chars ++ ['\n']))).toList = chars := by
  have kept {front : List Char} (visible : ∀ c ∈ front, isWhitespace c = false) :
      front.dropWhile isWhitespace = front :=
    List.dropWhile_eq_self_iff.mpr fun begins => by
      rw [visible _ (List.getElem_mem begins)]
      exact Bool.false_ne_true
  have back : ∀ c ∈ chars.reverse, isWhitespace c = false :=
    fun c member => visible c (List.mem_reverse.mp member)
  rw [trim, String.toList_ofList, String.toList_ofList]
  cases chars with
  | nil => rfl
  | cons c rest =>
      rw [List.cons_append, List.dropWhile_cons_of_neg (by rw [visible c (.head _)]; decide),
        ← List.cons_append, List.reverse_append, List.reverse_singleton, List.singleton_append,
        List.dropWhile_cons_of_pos rfl, kept back, List.reverse_reverse]

theorem parseMac_addressFile (mac : Mac) : parseMac (addressFile mac) = .ok mac := by
  have spelled : List.Forall₂ SpellsOctet (mac.octets.map lowerHex) mac.octets := by
    rw [List.forall₂_map_left_iff]
    exact List.forall₂_same.mpr fun octet _ => spellsOctet_lowerHex octet
  rw [parseMac_eq_ok, addressFile, trim_newline fun c => isWhitespace_addressFile mac,
    splitOn_intercalate spelled]
  exact spelled

/-- The addresses that are read: six groups of digits between colons, with white space around
them.  The address that the kernel has written is read back. -/
theorem parseMac_grammar (mac : Mac) :
    (∀ s, parseMac s = .ok mac ↔ ∃ groups, (trim s).toList = [':'].intercalate groups ∧
      List.Forall₂ SpellsOctet groups mac.octets) ∧
    ∀ iface missing, readMac (sysfs iface mac missing) iface = .ok mac := by
  refine ⟨fun s => ⟨fun parsed => ?_, ?_⟩, fun iface missing => ?_⟩
  · exact ⟨_, (List.intercalate_splitOn ':').symm, parseMac_eq_ok.mp parsed⟩
  · rintro ⟨groups, text, spelled⟩
    rw [parseMac_eq_ok, text, splitOn_intercalate spelled]
    exact spelled
  · rw [readMac, sysfs, if_pos rfl, ok_bind, parseMac_addressFile]

end RbctlDsl.Dsl
