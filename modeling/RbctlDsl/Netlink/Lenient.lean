import RbctlDsl.Netlink.TypedAttr

/-!
# Attributes that may be refused

The code that builds requests does not look at what `put` returns: an attribute that is refused is
left out, and the attributes behind it follow all the same.  Only a `nest_start` that fails ends
the building.  Such a sequence of calls appends an encoding of its tree, less the refused leaves.
-/

namespace RbctlDsl.Netlink

open RbctlDsl.Lib

/-- What the calls of a tree, from one message to another, leave of it: all but the leaves that
`nla_put` refuses. -/
inductive Pruned (libnl : Libnl) : NlMsg → Attrs → Attrs → NlMsg → Prop where
  | nil (msg : NlMsg) : Pruned libnl msg .nil .nil msg
  | keep {msg msg' : NlMsg} {rest rest' : Attrs} (attr : Attr)
      (accepted : ¬(put libnl msg (attrtype attr.nlaType) attr.payload).1 < 0)
      (pruned :
        Pruned libnl (put libnl msg (attrtype attr.nlaType) attr.payload).2 rest rest' msg') :
      Pruned libnl msg (.leaf attr rest) (.leaf attr rest') msg'
  | drop {msg msg' : NlMsg} {rest rest' : Attrs} (attr : Attr)
      (refused : (put libnl msg (attrtype attr.nlaType) attr.payload).1 < 0)
      (pruned :
        Pruned libnl (put libnl msg (attrtype attr.nlaType) attr.payload).2 rest rest' msg') :
      Pruned libnl msg (.leaf attr rest) rest' msg'
  | nest {msg opened filled closed msg' : NlMsg} {nest : Nest}
      {children children' rest rest' : Attrs} (nlaType : UInt16)
      (started : nestStart libnl msg (attrtype nlaType) = some (nest, opened))
      (inner : Pruned libnl opened children children' filled)
      (ended : nestEnd libnl filled nest = some closed)
      (outer : Pruned libnl closed rest rest' msg') :
      Pruned libnl msg (.nest nlaType children rest) (.nest nlaType children' rest') msg'

section Definitions

variable (libnl : Libnl)

/-- A call whose result is looked at only where it opens an attribute. -/
def Builder.try (builder : Builder) : Call → Except Stop Builder
  | .item attr =>
      .ok ⟨(put libnl builder.msg (attrtype attr.nlaType) attr.payload).2, builder.nests⟩
  | .opening nlaType => builder.call libnl (.opening nlaType)
  | .closing => builder.call libnl .closing

def Builder.tries (builder : Builder) : List Call → Except Stop Builder
  | [] => .ok builder
  | call :: calls => do
      let builder ← builder.try libnl call
      builder.tries calls

/-- No `nla_put` fails. -/
def Libnl.Accepts : Prop :=
  ∀ (msg : NlMsg) (attrtype attrlen : Int32) (data : Bytes),
    ¬(libnl.nlaPut msg attrtype attrlen data).1 < 0

/-- No `nla_put` fails that puts a leaf.  One that opens an attribute may. -/
def Libnl.Keeps : Prop :=
  ∀ (msg : NlMsg) (attr : Attr), attr.nlaType < 0x4000 →
    ¬(put libnl msg (attrtype attr.nlaType) attr.payload).1 < 0

end Definitions

variable {libnl : Libnl} {builder : Builder}

theorem Libnl.Accepts.keeps (accepts : libnl.Accepts) : libnl.Keeps :=
  fun msg attr _ => accepts msg (attrtype attr.nlaType) _ _

/-- Where no leaf is refused, the tree is whole. -/
theorem Pruned.eq_of_keeps (keeps : libnl.Keeps) {msg msg' : NlMsg} {attrs sent : Attrs}
    (pruned : Pruned libnl msg attrs sent msg')
    (below : ∀ call ∈ attrs.tokens, TypeBelow 0x4000 call) : sent = attrs := by
  induction pruned with
  | nil msg => rfl
  | keep attr accepted pruned ih =>
      simp only [Forest.tokens, List.forall_mem_cons] at below
      exact congrArg _ (ih below.2)
  | drop attr refused pruned ih =>
      simp only [Forest.tokens, List.forall_mem_cons] at below
      exact absurd refused (keeps _ attr below.1)
  | nest nlaType started inner ended outer innerIh outerIh =>
      simp only [Forest.tokens, List.forall_mem_cons, List.forall_mem_append] at below
      rw [innerIh below.2.1, outerIh below.2.2.2]

/-- An attribute is opened by `nest_start`. -/
theorem nestStart_of_call {nlaType : UInt16} {msg : NlMsg} {nest : Nest} {nests : List Nest}
    (opening : builder.call libnl (.opening nlaType) = .ok ⟨msg, nest :: nests⟩) :
    nestStart libnl builder.msg (attrtype nlaType) = some (nest, msg) := by
  rw [Builder.call] at opening
  split at opening
  · cases opening
  next started =>
    cases opening
    exact started

theorem Builder.tries_append (calls more : List Call) :
    builder.tries libnl (calls ++ more) =
      builder.tries libnl calls >>= fun builder => builder.tries libnl more := by
  induction calls generalizing builder with
  | nil => rfl
  | cons call calls ih =>
      simp only [List.cons_append, Builder.tries]
      cases builder.try libnl call with
      | error stop => rfl
      | ok builder => exact ih

/-- An attribute is refused and leaves the message as it is, or is appended as a leaf. -/
theorem put_cases (steady : libnl.Steady) (msg : NlMsg) (attr : Attr)
    (small : attr.payload.length < 2 ^ 31) :
    (put libnl msg (attrtype attr.nlaType) attr.payload).1 < 0 ∧
        (put libnl msg (attrtype attr.nlaType) attr.payload).2 = msg ∨
      ¬(put libnl msg (attrtype attr.nlaType) attr.payload).1 < 0 ∧ ∃ padding : Bytes,
        attr.payload.length + padding.length = nlaAlign attr.payload.length ∧ Appended msg
          (Nlattr.bytes libnl.order ⟨.ofNat (NLA_HDRLEN + attr.payload.length), attr.nlaType⟩ ++
            (attr.payload ++ padding))
          (put libnl msg (attrtype attr.nlaType) attr.payload).2 := by
  by_cases refused : (put libnl msg (attrtype attr.nlaType) attr.payload).1 < 0
  · exact .inl ⟨refused, steady.nlaPut_refused _ _ _ _ refused⟩
  · have appends := put_appends steady.toLawful attr.payload small refused
    rw [toUInt16_attrtype] at appends
    exact .inr ⟨refused, appends⟩

/-- The calls of a tree append an encoding of what is accepted of it, unless an attribute with
others in it is refused. -/
theorem tries_tokens (steady : libnl.Steady) (attrs : Attrs)
    (below : ∀ call ∈ attrs.tokens, TypeBelow 0x4000 call)
    (small : (attrs.tokens.map wireSize).sum < 2 ^ 31)
    (success : builder.tries libnl attrs.tokens ≠ .error .refused) :
    ∃ msg bytes sent, builder.tries libnl attrs.tokens = .ok ⟨msg, builder.nests⟩ ∧
      Pruned libnl builder.msg attrs sent msg ∧
      Encodes libnl.order sent bytes ∧ Grown builder.msg bytes msg ∧
      bytes.length ≤ (attrs.tokens.map wireSize).sum := by
  induction attrs generalizing builder with
  | nil =>
      exact ⟨builder.msg, [], .nil, rfl, .nil _, .nil, .inl ⟨rfl, rfl⟩, Nat.le_refl _⟩
  | leaf attr rest ih =>
      simp only [Forest.tokens, List.forall_mem_cons] at below
      simp only [Forest.tokens, List.map_cons, List.sum_cons, wireSize] at small ⊢
      have room : attr.payload.length < 2 ^ 31 := by
        rw [nlaAlign_eq] at small
        omega
      have success : Builder.tries libnl
          ⟨(put libnl builder.msg (attrtype attr.nlaType) attr.payload).2, builder.nests⟩
          rest.tokens ≠ .error .refused := success
      obtain ⟨msg, bytes, sent, ran, pruned, encodes, grown, length⟩ :=
        ih below.2 (by omega) success
      rcases put_cases steady builder.msg attr room with
        ⟨refused, same⟩ | ⟨accepted, padding, padded, appended⟩
      · rw [same] at grown
        exact ⟨msg, bytes, sent, ran, .drop attr refused pruned, encodes, grown,
          Nat.le_add_left_of_le length⟩
      · have encoded := Encodes.leaf below.1 padded encodes
        have grows := appended.grown grown encoded.length_mod encodes.length_mod
        refine ⟨msg, _, _, ran, .keep attr accepted pruned, encoded, .inr grows, ?_⟩
        rw [List.length_append, List.length_append, Nlattr.length_bytes, List.length_append, padded]
        exact Nat.add_le_add_left length _
  | nest nlaType children rest inner outer =>
      simp only [Forest.tokens, List.forall_mem_cons, List.forall_mem_append] at below
      simp only [Forest.tokens, List.map_cons, List.map_append, List.sum_cons, List.sum_append,
        wireSize] at small ⊢
      simp only [Forest.tokens, Builder.tries, Builder.try] at success ⊢
      obtain ⟨opened, opening, appended⟩ :=
        call_opening steady.toLawful (ne_refused_of_bind success)
      have started := nestStart_of_call opening
      rw [opening] at success ⊢
      simp only [ok_bind, Builder.tries_append] at success ⊢
      obtain ⟨full, innerBytes, innerSent, ranInner, innerPruned, nested, grown, innerLength⟩ :=
        inner below.2.1 (by omega) (ne_refused_of_bind success)
      rw [ranInner] at success ⊢
      have filled : Appended builder.msg _ full :=
        appended.grown grown (by simp [nested.length_mod]) nested.length_mod
      obtain ⟨closed, ended, finished⟩ := nestEnd_appended filled nested.length_mod
      simp only [ok_bind, Builder.tries, Builder.try, Builder.call, ended] at success ⊢
      obtain ⟨msg, bytes, sent, ran, pruned, encodes, after, length⟩ :=
        outer below.2.2.2 (by omega) success
      have encoded := Encodes.nest below.1 nested encodes
      have grows := finished.grown after encoded.length_mod encodes.length_mod
      refine ⟨msg, _, _, ran, .nest nlaType started innerPruned ended pruned, encoded,
        .inr grows, ?_⟩
      rw [List.length_append, List.length_append, Nlattr.length_bytes]
      simp only [NLA_HDRLEN]
      omega

/-- Where nothing is refused, no attribute stops the calls. -/
theorem tries_ne_refused (accepts : libnl.Accepts) (calls : List Call) :
    builder.tries libnl calls ≠ .error .refused := by
  induction calls generalizing builder with
  | nil => exact fun same => by cases same
  | cons call calls ih =>
      rw [Builder.tries]
      cases call with
      | item attr => exact ih
      | opening nlaType =>
          have started : nestStart libnl builder.msg (attrtype nlaType) = some _ :=
            if_neg (accepts _ _ _ _)
          rw [Builder.try, Builder.call, started]
          exact ih
      | closing =>
          simp only [Builder.try, Builder.call]
          split
          · exact fun same => by cases same
          · split
            · exact fun same => by cases same
            · exact ih

end RbctlDsl.Netlink
