/-!
# Cursors driven by acknowledgments

A sender walks a cursor over the items `0, …, total - 1`.  It sends the item at the cursor,
receives a reply, and moves on.  A reply may acknowledge a good index of its own choice.

A log is a list of sent indices with their replies.  `Walk` is the log of such a sender.
When every reply acknowledges exactly the item it answers, the log covers every item;
when one does not, a sender that moves past the larger of the two indices either skips an
item or never repeats one.
-/

namespace RbctlDsl.Lib

variable {ρ : Type}

/-- The log of a cursor from `start` to `finish` that moves by `next`. -/
def Walk (next : Nat → ρ → Nat) (total : Nat) : Nat → List (Nat × ρ) → Nat → Prop
  | start, [], finish => start = finish
  | start, (index, reply) :: rest, finish =>
      index = start ∧ start < total ∧ Walk next total (next start reply) rest finish

/-- Every item from `start` on occurs in the log. -/
def CoversFrom (total start : Nat) (log : List (Nat × ρ)) : Prop :=
  ∀ item, start ≤ item → item < total → ∃ entry ∈ log, entry.1 = item

/-- A reply that acknowledges less than the item it answers is followed, later in the log,
by every item above what it acknowledged. -/
def Resends (ack : ρ → Option Nat) (total : Nat) (log : List (Nat × ρ)) : Prop :=
  ∀ earlier index reply later, log = earlier ++ (index, reply) :: later →
    ∀ good, ack reply = some good → good < index → CoversFrom total (good + 1) later

/-- The reply acknowledges the item it answers, or nothing, or at the last item no less
than it. -/
def InStep (ack : ρ → Option Nat) (total : Nat) (entry : Nat × ρ) : Prop :=
  ∀ good, ack entry.2 = some good →
    good = entry.1 ∨ (entry.1 + 1 = total ∧ entry.1 ≤ good)

/-- Move past the item and past what its reply acknowledges. -/
def pastBoth (ack : ρ → Option Nat) (index : Nat) (reply : ρ) : Nat :=
  match ack reply with
  | some good => max index good + 1
  | none => index + 1

variable {next : Nat → ρ → Nat} {ack : ρ → Option Nat} {total : Nat}

theorem Walk.snoc {log : List (Nat × ρ)} {start finish : Nat} {reply : ρ}
    (walk : Walk next total start log finish) (inside : finish < total) :
    Walk next total start (log ++ [(finish, reply)]) (next finish reply) := by
  induction log generalizing start with
  | nil =>
      cases walk
      exact ⟨rfl, inside, rfl⟩
  | cons entry log ih => exact ⟨walk.1, walk.2.1, ih walk.2.2⟩

theorem Walk.inside {log : List (Nat × ρ)} {start finish : Nat}
    (walk : Walk next total start log finish) : ∀ entry ∈ log, entry.1 < total := by
  induction log generalizing start with
  | nil => simp
  | cons entry log ih =>
      obtain ⟨rfl, inside, walk⟩ := walk
      intro other member
      cases member with
      | head => exact inside
      | tail _ member => exact ih walk other member

/-- A reply in step moves the cursor by one, or was about the last item. -/
theorem InStep.next_eq {index : Nat} {reply : ρ}
    (exact : ∀ index reply, index < total → (∀ good, ack reply = some good → good = index) →
      next index reply = index + 1)
    (inStep : InStep ack total (index, reply)) (inside : index < total) :
    next index reply = index + 1 ∨ index + 1 = total := by
  cases last : decide (index + 1 = total) with
  | true => exact .inr (of_decide_eq_true last)
  | false =>
      left
      apply exact index reply inside
      intro good acked
      cases inStep good acked with
      | inl equal => exact equal
      | inr atEnd => exact absurd atEnd.1 (of_decide_eq_false last)

/-- A cursor whose replies are all in step covers every item and owes no item again. -/
theorem Walk.covers {log : List (Nat × ρ)} {start finish : Nat}
    (exact : ∀ index reply, index < total → (∀ good, ack reply = some good → good = index) →
      next index reply = index + 1)
    (walk : Walk next total start log finish) (ended : total ≤ finish)
    (inStep : ∀ entry ∈ log, InStep ack total entry) : CoversFrom total start log := by
  induction log generalizing start with
  | nil =>
      intro item lower upper
      cases walk
      exact absurd (Nat.lt_of_lt_of_le upper ended) (Nat.not_lt.mpr lower)
  | cons entry log ih =>
      obtain ⟨index, reply⟩ := entry
      obtain ⟨rfl, inside, walk⟩ := walk
      intro item lower upper
      rcases Nat.eq_or_lt_of_le lower with equal | above
      · exact ⟨(index, reply), .head _, equal⟩
      · have moves := (inStep (index, reply) (.head _)).next_eq exact inside
        cases moves with
        | inl moved =>
            have covered := ih walk fun entry member => inStep entry (.tail _ member)
            obtain ⟨entry, member, equal⟩ := covered item (moved ▸ above) upper
            exact ⟨entry, .tail _ member, equal⟩
        | inr last => exact absurd upper (Nat.not_lt.mpr (last ▸ above))

theorem resends_of_inStep {log : List (Nat × ρ)}
    (inStep : ∀ entry ∈ log, InStep ack total entry) : Resends ack total log := by
  intro earlier index reply later split good acked behind
  have member : (index, reply) ∈ log := by simp [split]
  cases inStep _ member good acked with
  | inl equal => exact absurd behind (Nat.not_lt.mpr (Nat.le_of_eq equal.symm))
  | inr atEnd => exact absurd behind (Nat.not_lt.mpr atEnd.2)

theorem lt_pastBoth (index : Nat) (reply : ρ) : index < pastBoth ack index reply := by
  rw [pastBoth]
  cases ack reply with
  | none => exact Nat.lt_succ_self _
  | some good => exact Nat.lt_succ_of_le (Nat.le_max_left ..)

theorem good_lt_pastBoth {index good : Nat} {reply : ρ} (acked : ack reply = some good) :
    good < pastBoth ack index reply := by
  rw [pastBoth, acked]
  exact Nat.lt_succ_of_le (Nat.le_max_right ..)

/-- A cursor that moves past both indices never sends an item below its position. -/
theorem Walk.above {log : List (Nat × ρ)} {start finish : Nat}
    (moves : ∀ entry ∈ log, next entry.1 entry.2 = pastBoth ack entry.1 entry.2)
    (walk : Walk next total start log finish) : ∀ entry ∈ log, start ≤ entry.1 := by
  induction log generalizing start with
  | nil => simp
  | cons entry log ih =>
      obtain ⟨index, reply⟩ := entry
      obtain ⟨rfl, inside, walk⟩ := walk
      intro entry member
      cases member with
      | head => exact Nat.le_refl _
      | tail _ member =>
          have later := ih (fun entry member => moves entry (.tail _ member)) walk entry member
          have forward : index < next index reply := by
            rw [moves (index, reply) (.head _)]
            exact lt_pastBoth index reply
          exact Nat.le_trans (Nat.le_of_lt forward) later

theorem Resends.tail {entry : Nat × ρ} {log : List (Nat × ρ)}
    (resends : Resends ack total (entry :: log)) : Resends ack total log := by
  intro earlier index reply later split
  exact resends (entry :: earlier) index reply later (by rw [split]; rfl)

/-- What covers every item from a first one on, covers every later item after its first entry. -/
theorem CoversFrom.tail {index next : Nat} {reply : ρ} {log : List (Nat × ρ)}
    (covers : CoversFrom total index ((index, reply) :: log)) (forward : index < next) :
    CoversFrom total next log := by
  intro item lower upper
  have later : index < item := Nat.lt_of_lt_of_le forward lower
  obtain ⟨entry, member, equal⟩ := covers item (Nat.le_of_lt later) upper
  cases member with
  | head => exact absurd equal (Nat.ne_of_lt later)
  | tail _ member => exact ⟨entry, member, equal⟩

/-- The first reply is in step where the entries after it start past both of its indices. -/
theorem inStep_head {index : Nat} {reply : ρ} {log : List (Nat × ρ)} (inside : index < total)
    (above : ∀ entry ∈ log, pastBoth ack index reply ≤ entry.1)
    (covers : CoversFrom total index ((index, reply) :: log))
    (resends : Resends ack total ((index, reply) :: log)) : InStep ack total (index, reply) := by
  intro good acked
  rcases Nat.lt_trichotomy good index with behind | equal | ahead
  · -- the item would have to be sent again
    obtain ⟨entry, member, again⟩ :=
      resends [] index reply log rfl good acked behind index behind inside
    have passed : index < entry.1 :=
      Nat.lt_of_lt_of_le (lt_pastBoth index reply) (above entry member)
    exact absurd again (Nat.ne_of_gt passed)
  · exact .inl equal
  · refine .inr ⟨?_, Nat.le_of_lt ahead⟩
    rcases Nat.eq_or_lt_of_le (Nat.succ_le_of_lt inside) with last | skipped
    · exact last
    · -- the next item would be skipped
      obtain ⟨entry, member, equal⟩ :=
        covers.tail (Nat.lt_succ_self index) (index + 1) (Nat.le_refl _) skipped
      have far : good < index + 1 :=
        equal ▸ Nat.lt_of_lt_of_le (good_lt_pastBoth acked) (above entry member)
      exact absurd ahead (Nat.not_lt.mpr (Nat.le_of_lt_succ far))

/-- Conversely, a cursor that moves past both indices covers every item, and sends again
what a late acknowledgment asks for, only if every reply is in step. -/
theorem Walk.inStep {log : List (Nat × ρ)} {start finish : Nat}
    (moves : ∀ entry ∈ log, next entry.1 entry.2 = pastBoth ack entry.1 entry.2)
    (walk : Walk next total start log finish) (covers : CoversFrom total start log)
    (resends : Resends ack total log) : ∀ entry ∈ log, InStep ack total entry := by
  induction log generalizing start with
  | nil => simp
  | cons entry log ih =>
      obtain ⟨index, reply⟩ := entry
      obtain ⟨rfl, inside, walk⟩ := walk
      have restMoves : ∀ entry ∈ log, next entry.1 entry.2 = pastBoth ack entry.1 entry.2 :=
        fun entry member => moves entry (.tail _ member)
      have moved : next index reply = pastBoth ack index reply := moves (index, reply) (.head _)
      rw [moved] at walk
      have restCovers : CoversFrom total (pastBoth ack index reply) log :=
        covers.tail (lt_pastBoth index reply)
      intro entry member
      cases member with
      | head => exact inStep_head inside (walk.above restMoves) covers resends
      | tail _ member => exact ih restMoves walk restCovers resends.tail entry member

end RbctlDsl.Lib
