import Mathlib.Logic.Function.Basic
import RbctlDsl.Dsl.Daemon
import RbctlDsl.Lib.World

/-!
# The interfaces of the host

What the kernel does on a request of `RtnlLink`, as far as it is documented, and what
`create_vlan_iface` and `delete_vlan_iface` make of it.  The kernel may refuse a request for
reasons of its own; which requests those are is a parameter.
-/

namespace RbctlDsl.Dsl

open RbctlDsl.Lib

/-- An interface. -/
structure HostLink where
  /-- The interface below and the id, of a VLAN interface. -/
  vlan : Option (String × UInt16)
  up : Bool
  deriving DecidableEq, Repr

/-- The interfaces of the host by their names. -/
abbrev HostLinks := String → Option HostLink

namespace HostLinks

/-- An interface is stacked on one of these, directly or not. -/
inductive Above (links : HostLinks) (names : List String) : String → Prop where
  | on {other name : String} {link : HostLink} {vlanId : UInt16} :
    links other = some link → link.vlan = some (name, vlanId) → name ∈ names →
      Above links names other
  | upon {other below : String} {link : HostLink} {vlanId : UInt16} :
    links other = some link → link.vlan = some (below, vlanId) → Above links names below →
      Above links names other

/-- All that is none of these interfaces nor stacked on one stays as it is. -/
def SameBut (names : List String) (links after : HostLinks) : Prop :=
  ∀ other ∉ names, ¬ links.Above names other → after other = links other

/-- The other interfaces that are left are on what they were on. -/
def Within (names : List String) (links after : HostLinks) : Prop :=
  ∀ other ∉ names, ∀ link', after other = some link' →
    ∃ link, links other = some link ∧ link.vlan = link'.vlan

section Frame

variable {names more : List String} {name other : String} {links middle after : HostLinks}

theorem Above.mono (above : links.Above names other) (subset : names ⊆ more) :
    links.Above more other := by
  induction above with
  | on there isOn member => exact .on there isOn (subset member)
  | upon there isOn _ ih => exact .upon there isOn ih

/-- Nothing is stacked on an interface that no VLAN interface is on. -/
theorem not_above (bare : ∀ other link vlanId, links other = some link →
      link.vlan ≠ some (name, vlanId)) (other : String) : ¬ links.Above [name] other := by
  intro above
  induction above with
  | on there isOn member => exact bare _ _ _ there (List.mem_singleton.mp member ▸ isOn)
  | upon _ _ _ ih => exact ih

theorem Within.refl (names : List String) (links : HostLinks) : Within names links links :=
  fun _ _ link' there => ⟨link', there, rfl⟩

theorem Within.mono (within : Within names links after) (subset : names ⊆ more) :
    Within more links after :=
  fun other apart => within other fun member => apart (subset member)

theorem Within.trans (first : Within names links middle) (second : Within names middle after) :
    Within names links after := by
  intro other apart link'' there
  obtain ⟨link', was, same⟩ := second other apart link'' there
  obtain ⟨link, first, same'⟩ := first other apart link' was
  exact ⟨link, first, same'.trans same⟩

theorem Within.above (within : Within names links after) (above : after.Above names other)
    (apart : other ∉ names) : links.Above names other := by
  induction above with
  | on there isOn member =>
      obtain ⟨link, was, same⟩ := within _ apart _ there
      exact .on was (same.trans isOn) member
  | @upon other below link vlanId there isOn _ ih =>
      obtain ⟨link, was, same⟩ := within _ apart _ there
      -- A way down that meets one of the interfaces ends there.
      by_cases bottom : below ∈ names
      · exact .on was (same.trans isOn) bottom
      · exact .upon was (same.trans isOn) (ih bottom)

theorem SameBut.refl (names : List String) (links : HostLinks) : SameBut names links links :=
  fun _ _ _ => rfl

theorem SameBut.mono (same : SameBut names links after) (subset : names ⊆ more) :
    SameBut more links after :=
  fun other apart beside => same other (fun member => apart (subset member))
    fun above => beside (above.mono subset)

theorem SameBut.trans (first : SameBut names links middle) (within : Within names links middle)
    (second : SameBut names middle after) : SameBut names links after := by
  intro other apart beside
  have stillBeside : ¬ middle.Above names other := fun above => beside (within.above above apart)
  exact (second other apart stillBeside).trans (first other apart beside)

end Frame

/-- What a request does beside its interface. -/
structure Beside (names : List String) (links after : HostLinks) : Prop where
  same : SameBut names links after
  within : Within names links after

section Beside

variable {names more : List String} {links middle after : HostLinks}

theorem Beside.refl (names : List String) (links : HostLinks) : Beside names links links :=
  ⟨.refl _ _, .refl _ _⟩

theorem Beside.trans (first : Beside names links middle) (second : Beside names middle after) :
    Beside names links after :=
  ⟨first.same.trans first.within second.same, first.within.trans second.within⟩

theorem Beside.mono (beside : Beside names links after) (subset : names ⊆ more) :
    Beside more links after :=
  ⟨beside.same.mono subset, beside.within.mono subset⟩

end Beside

/-- An interface is switched up or down; this may switch those stacked on it too. -/
structure Switched (name : String) (up : Bool) (links after : HostLinks) : Prop where
  link : ∃ link, links name = some link ∧ after name = some { link with up := up }
  same : SameBut [name] links after
  vlans : ∀ other, (after other).map HostLink.vlan = (links other).map HostLink.vlan

theorem Switched.beside {name : String} {up : Bool} {links after : HostLinks}
    (switched : Switched name up links after) : Beside [name] links after := by
  refine ⟨switched.same, fun other _ link' there => ?_⟩
  have vlans := switched.vlans other
  rw [there, Option.map_some] at vlans
  exact Option.map_eq_some_iff.mp vlans.symm

/-- An interface is removed with those stacked on it. -/
structure Removed (name : String) (links after : HostLinks) : Prop where
  present : (links name).isSome = true
  gone : after name = none
  above : ∀ other, links.Above [name] other → after other = none
  same : SameBut [name] links after

theorem Removed.beside {name : String} {links after : HostLinks}
    (removed : Removed name links after) : Beside [name] links after := by
  refine ⟨removed.same, fun other apart link' there => ?_⟩
  by_cases above : links.Above [name] other
  · rw [removed.above other above] at there
    cases there
  · rw [removed.same other apart above] at there
    exact ⟨link', there, rfl⟩

/-- The name or the VLAN of an interface is in use. -/
def Taken (links : HostLinks) (parent : String) (vlanId : UInt16) : Prop :=
  (links (vlanName parent vlanId)).isSome = true ∨
    ∃ other link, links other = some link ∧ link.vlan = some (parent, vlanId)

/-- The documented reasons for an error. -/
def Fails (links : HostLinks) : RtnlOp → OsError → Prop
  | .new, _ => False
  | .addVlan parent vlanId, error =>
    if error.code = some eexist then links.Taken parent vlanId else links parent = none
  | .setUp name, _ | .del name, _ => links name = none

/-- What a request that is granted does. -/
def Granted (links after : HostLinks) : RtnlOp → Prop
  | .new => after = links
  | .addVlan parent vlanId =>
    (links parent).isSome = true ∧ ¬ links.Taken parent vlanId ∧
      after = Function.update links (vlanName parent vlanId) (some ⟨some (parent, vlanId), false⟩)
  | .setUp name => Switched name true links after
  | .del name => Removed name links after

end HostLinks

open HostLinks

/-- The kernel grants a request, or it reports an error and changes nothing: a documented one, or
one of its own. -/
def Kernel (refuses : RtnlOp → Prop) : World rtnl HostLinks
  | links, ⟨op, .ok ()⟩, after => links.Granted after op
  | links, ⟨op, .error error⟩, after =>
    after = links ∧ (links.Fails op error ∨ refuses op ∧ error.code ≠ some eexist)

section Ifaces

variable {refuses : RtnlOp → Prop} {links middle after : HostLinks} {name : String}

theorem beside_update (link : HostLink) :
    Beside [name] links (Function.update links name link) := by
  have others (other : String) (apart : other ∉ [name]) :
      Function.update links name link other = links other :=
    Function.update_of_ne (List.ne_of_not_mem_cons apart) _ _
  refine ⟨fun other apart _ => others other apart, fun other apart link' there => ?_⟩
  rw [others other apart] at there
  exact ⟨link', there, rfl⟩

/-- An answer to `set_up`. -/
theorem beside_setUp {answer : Except OsError Unit}
    (taken : Kernel refuses links ⟨.setUp name, answer⟩ after) : Beside [name] links after := by
  cases answer with
  | error error => exact taken.1 ▸ .refl _ _
  | ok up => exact Switched.beside taken

/-- An answer to `del`. -/
theorem beside_del {answer : Except OsError Unit}
    (taken : Kernel refuses links ⟨.del name, answer⟩ after) : Beside [name] links after := by
  cases answer with
  | error error => exact taken.1 ▸ .refl _ _
  | ok done => exact Removed.beside taken

/-- The interface is gone where the kernel does not refuse its deletion. -/
theorem gone_of_del {answer : Except OsError Unit}
    (taken : Kernel refuses links ⟨.del name, answer⟩ after) (grants : ¬ refuses (.del name)) :
    after name = none := by
  cases answer with
  | ok done => exact Removed.gone taken
  | error error =>
      obtain ⟨rfl, absent | ⟨refused, _⟩⟩ := taken
      · exact absent
      · exact absurd refused grants

theorem beside_addVlan {parent : String} {vlanId : UInt16} {answer : Except OsError Unit}
    (taken : Kernel refuses links ⟨.addVlan parent vlanId, answer⟩ after) :
    Beside [vlanName parent vlanId] links after := by
  cases answer with
  | error error => exact taken.1 ▸ .refl _ _
  | ok new =>
      obtain ⟨_, _, rfl⟩ := taken
      exact beside_update _

/-- A new socket is opened, where the kernel does not refuse it. -/
theorem same_of_new {answer : Except OsError Unit}
    (taken : Kernel refuses links ⟨.new, answer⟩ after) : after = links := by
  cases answer with
  | error error => exact taken.1
  | ok socket => exact taken

theorem refused_of_new {error : OsError}
    (taken : Kernel refuses links ⟨.new, .error error⟩ after) : refuses .new := by
  obtain ⟨_, fails | ⟨refused, _⟩⟩ := taken
  · cases fails
  · exact refused

/-- The interface that is asked for is there and up where no error is reported, and nothing beside
it has changed. -/
structure Ensured (name : String) (links : HostLinks) (result : Except String Unit)
    (after : HostLinks) : Prop where
  up : result = .ok () → ∃ link, after name = some link ∧ link.up = true
  beside : Beside [name] links after

theorem ensured_error {message : String} (beside : Beside [name] links after) :
    Ensured name links (.error message) after :=
  ⟨fun equal => (by cases equal), beside⟩

/-- The last request, to set the interface up. -/
theorem setUp_meets {next : Except OsError Unit → Method rtnl Unit String Unit}
    (ends : ∀ answer, next answer () =
      .pure (answer.mapError fun e => s!"set_up {name}: {e.text}", ()))
    (beside : Beside [name] links middle) :
    Meets (Kernel refuses) (fun result after => Ensured name links result.1 after)
      ((onRtnl (.setUp name) >>= next) ()) middle := by
  intro answer after taken
  simp only [Program.pure_bind, Method.resume_ok, ends]
  cases answer with
  | error error => exact ensured_error (beside.trans (beside_setUp taken))
  | ok up =>
      obtain ⟨link, _, isUp⟩ := Switched.link taken
      exact ⟨fun _ => ⟨_, isUp, rfl⟩, beside.trans (beside_setUp taken)⟩

/-- Whether the interface is new or was there before, it is set up. -/
theorem createVlanIface_meets (parent : String) (vlanId : UInt16) :
    Meets (Kernel refuses)
      (fun result after => Ensured (vlanName parent vlanId) links result.1 after)
      (createVlanIface parent vlanId ()) links := by
  unfold createVlanIface
  intro opened after taken
  obtain rfl := same_of_new taken
  cases opened with
  | error error => exact ensured_error (.refl _ _)
  | ok socket =>
      intro added middle taken
      have beside := beside_addVlan taken
      cases added with
      | ok new => exact setUp_meets (fun answer => by cases answer <;> rfl) beside
      | error error =>
          by_cases exist : error.code = some eexist
          · simp only [Program.pure_bind, Method.resume_ok, if_pos exist]
            exact setUp_meets (fun answer => by cases answer <;> rfl) beside
          · simp only [Program.pure_bind, Method.resume_ok, if_neg exist]
            exact ensured_error beside

/-- An interface is deleted, as far as the kernel does not refuse it. -/
structure Deleted (refuses : RtnlOp → Prop) (name : String) (links after : HostLinks) : Prop where
  gone : ¬ refuses .new → ¬ refuses (.del name) → after name = none
  beside : Beside [name] links after

theorem deleteVlanIface_meets (parent : String) (vlanId : UInt16) :
    Meets (Kernel refuses) (fun _ after => Deleted refuses (vlanName parent vlanId) links after)
      (deleteVlanIface parent vlanId ()) links := by
  unfold deleteVlanIface
  intro opened after taken
  obtain rfl := same_of_new taken
  cases opened with
  | error error => exact ⟨fun grants => absurd (refused_of_new taken) grants, .refl _ _⟩
  | ok socket => exact fun _ _ taken => ⟨fun _ => gone_of_del taken, beside_del taken⟩

end Ifaces

/-! ## A host -/

/-- A host with a management interface. -/
def managedHost : HostLinks
  | "lan0" => some ⟨none, true⟩
  | "lan0.500" => some ⟨some ("lan0", 500), true⟩
  | _ => none

/-- The same host with a transport interface, if it is created. -/
def hostWith (vlanId : UInt16) (iface : Option Bool) : HostLinks :=
  Function.update managedHost (vlanName "lan0" vlanId)
    (iface.map fun up => ⟨some ("lan0", vlanId), up⟩)

section Host

variable {vlanId : UInt16} {iface : Option Bool}

theorem below_managedHost {other name : String} {link : HostLink}
    (there : managedHost other = some link) (isOn : link.vlan = some (name, vlanId)) :
    name = "lan0" ∧ vlanId = 500 := by
  unfold managedHost at there
  split at there <;> cases there
  · cases isOn
  · simp only [Option.some.injEq, Prod.mk.injEq] at isOn
    exact ⟨isOn.1.symm, isOn.2.symm⟩

@[simp] theorem hostWith_self : hostWith vlanId iface (vlanName "lan0" vlanId) =
    iface.map fun up => ⟨some ("lan0", vlanId), up⟩ := Function.update_self ..

theorem hostWith_of_ne {other : String} (apart : other ≠ vlanName "lan0" vlanId) :
    hostWith vlanId iface other = managedHost other := Function.update_of_ne apart ..

/-- What is on an interface of this host. -/
theorem below_hostWith {other name : String} {link : HostLink} {onId : UInt16}
    (there : hostWith vlanId iface other = some link) (isOn : link.vlan = some (name, onId)) :
    name = "lan0" ∧ (onId = 500 ∨ other = vlanName "lan0" vlanId ∧ iface.isSome = true) := by
  by_cases new : other = vlanName "lan0" vlanId
  · rw [new, hostWith_self] at there
    obtain ⟨up, isSome, rfl⟩ := Option.map_eq_some_iff.mp there
    simp only [Option.some.injEq, Prod.mk.injEq] at isOn
    exact ⟨isOn.1.symm, .inr ⟨new, isSome ▸ rfl⟩⟩
  · rw [hostWith_of_ne new] at there
    have below := below_managedHost there isOn
    exact ⟨below.1, .inl below.2⟩

theorem adds_hostWith (apart : vlanId ≠ 500) (lower : vlanName "lan0" vlanId ≠ "lan0") :
    Kernel (fun _ => False) (hostWith vlanId none) ⟨.addVlan "lan0" vlanId, .ok ()⟩
      (hostWith vlanId (some false)) := by
  refine ⟨?_, ?_, ?_⟩
  · rw [hostWith_of_ne lower.symm]
    rfl
  · rintro (present | ⟨other, link, there, isOn⟩)
    · simp at present
    · rcases (below_hostWith there isOn).2 with management | ⟨_, created⟩
      · exact apart management
      · cases created
  · rw [hostWith, hostWith, Function.update_idem]
    rfl

theorem switches_hostWith (up before : Bool) :
    Switched (vlanName "lan0" vlanId) up (hostWith vlanId (some before))
      (hostWith vlanId (some up)) := by
  refine ⟨⟨⟨some ("lan0", vlanId), before⟩, hostWith_self, hostWith_self⟩, ?_, fun other => ?_⟩
  · intro other apart _
    have other := List.ne_of_not_mem_cons apart
    rw [hostWith_of_ne other, hostWith_of_ne other]
  · by_cases new : other = vlanName "lan0" vlanId
    · rw [new, hostWith_self, hostWith_self]
      rfl
    · rw [hostWith_of_ne new, hostWith_of_ne new]

theorem removes_hostWith (lower : vlanName "lan0" vlanId ≠ "lan0") (up : Bool) :
    Removed (vlanName "lan0" vlanId) (hostWith vlanId (some up)) (hostWith vlanId none) := by
  refine ⟨by simp, by simp, fun other above => absurd above (not_above ?_ other), ?_⟩
  · exact fun _ _ _ there isOn => lower (below_hostWith there isOn).1
  · intro other apart _
    have other := List.ne_of_not_mem_cons apart
    rw [hostWith_of_ne other, hostWith_of_ne other]

end Host

end RbctlDsl.Dsl
