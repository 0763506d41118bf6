/-!
# Frames on a byte stream

A stream carries the encodings of frames one after the other, and may break off inside of
one.  An inbox is what its reader has of it: the frames returned so far, the frames still to
come, and the bytes that arrived and belong to no returned frame.  Bytes arrive in bursts of
any size, and after each burst one frame is returned if it is there completely.
-/

namespace RbctlDsl.Lib

variable {Frame α : Type} (encode : Frame → List α)

/-- Bytes that more must follow: nothing yet, or the beginning of a frame. -/
def Incomplete (bytes : List α) : Prop :=
  bytes = [] ∨ ∃ frame rest, rest ≠ [] ∧ bytes ++ rest = encode frame

/-- No frame is empty, and a stream of them begins with one frame only. -/
structure PrefixCode : Prop where
  nonempty : ∀ frame, encode frame ≠ []
  unique : ∀ {frame other : Frame} {rest rest' : List α},
    encode frame ++ rest = encode other ++ rest' → frame = other

/-- What a reader has of a stream. -/
structure Inbox (Frame α : Type) where
  returned : List Frame
  pending : List Frame
  buffered : List α

section Front

variable {encode}

/-- A stream that begins with a frame is longer than one that has to go on. -/
theorem PrefixCode.not_prefix_of_incomplete (code : PrefixCode encode) {bytes : List α}
    (incomplete : Incomplete encode bytes) (frame : Frame) : ¬ encode frame <+: bytes := by
  rintro ⟨more, rfl⟩
  rcases incomplete with empty | ⟨other, rest, inside, split⟩
  · exact code.nonempty frame (List.append_eq_nil_iff.mp empty).1
  · rw [List.append_assoc] at split
    have same : frame = other := by
      apply code.unique
      rw [split, List.append_nil]
    subst same
    exact inside (List.append_eq_nil_iff.mp (List.append_right_eq_self.mp split)).2

/-- The bytes up to any point of a stream: a complete frame is in front, or more must follow. -/
theorem front_cases {frames : List Frame} {tail buffered upcoming : List α}
    (broken : Incomplete encode tail)
    (stream : buffered ++ upcoming = frames.flatMap encode ++ tail) :
    (∃ frame rest more, frames = frame :: rest ∧ buffered = encode frame ++ more ∧
        more ++ upcoming = rest.flatMap encode ++ tail) ∨
      Incomplete encode buffered ∧ (upcoming = [] → frames = []) := by
  cases frames with
  | nil =>
      refine .inr ⟨?_, fun _ => rfl⟩
      rw [List.flatMap_nil, List.nil_append] at stream
      subst stream
      rcases broken with empty | ⟨frame, rest, inside, split⟩
      · exact .inl (List.append_eq_nil_iff.mp empty).1
      · refine .inr ⟨frame, upcoming ++ rest, ?_, by rw [← split, List.append_assoc]⟩
        exact fun empty => inside (List.append_eq_nil_iff.mp empty).2
  | cons frame rest =>
      rw [List.flatMap_cons, List.append_assoc] at stream
      rcases List.append_eq_append_iff.mp stream with
        ⟨missing, split, later⟩ | ⟨more, split, later⟩
      · by_cases complete : missing = []
        · subst complete
          rw [List.append_nil] at split
          rw [List.nil_append] at later
          exact .inl ⟨frame, rest, [], rfl, by rw [split, List.append_nil], later⟩
        · refine .inr ⟨.inr ⟨frame, missing, complete, split.symm⟩, ?_⟩
          rintro rfl
          exact absurd (List.append_eq_nil_iff.mp later.symm).1 complete
      · exact .inl ⟨frame, rest, more, rfl, split, later.symm⟩

end Front

namespace Inbox

def arrive (inbox : Inbox Frame α) (burst : List α) : Inbox Frame α :=
  { inbox with buffered := inbox.buffered ++ burst }

variable [DecidableEq α]

/-- Return the next frame, if it is there. -/
def collect (inbox : Inbox Frame α) : Inbox Frame α :=
  match inbox.pending with
  | [] => inbox
  | frame :: rest =>
      if encode frame <+: inbox.buffered then
        ⟨inbox.returned ++ [frame], rest, inbox.buffered.drop (encode frame).length⟩
      else inbox

/-- The inbox after some bursts. -/
def after (inbox : Inbox Frame α) (bursts : List (List α)) : Inbox Frame α :=
  bursts.foldl (fun inbox burst => (inbox.arrive burst).collect encode) inbox

/-- The bytes held back never exceed `cap`. -/
def Fits (cap : Nat) (inbox : Inbox Frame α) (bursts : List (List α)) : Prop :=
  ∀ earlier burst, earlier ++ [burst] <+: bursts →
    ((inbox.after encode earlier).arrive burst).buffered.length ≤ cap

theorem after_concat (inbox : Inbox Frame α) (bursts : List (List α)) (burst : List α) :
    inbox.after encode (bursts ++ [burst]) =
      ((inbox.after encode bursts).arrive burst).collect encode := by
  rw [after, List.foldl_append]
  rfl

theorem Fits.of_concat {cap : Nat} {inbox : Inbox Frame α} {bursts : List (List α)}
    {burst : List α} (fits : inbox.Fits encode cap (bursts ++ [burst])) :
    inbox.Fits encode cap bursts ∧
      ((inbox.after encode bursts).arrive burst).buffered.length ≤ cap :=
  ⟨fun earlier next inside => fits earlier next (inside.trans (List.prefix_append _ _)),
    fits bursts burst List.prefix_rfl⟩

theorem length_collect_le (inbox : Inbox Frame α) :
    (inbox.collect encode).buffered.length ≤ inbox.buffered.length := by
  rw [collect]
  split
  · exact Nat.le_refl _
  · split
    · exact (List.drop_sublist _ _).length_le
    · exact Nat.le_refl _

theorem length_after_le (inbox : Inbox Frame α) (bursts : List (List α)) :
    (inbox.after encode bursts).buffered.length ≤
      inbox.buffered.length + bursts.flatten.length := by
  induction bursts generalizing inbox with
  | nil => exact Nat.le_refl _
  | cons burst bursts ih =>
      have rest := ih ((inbox.arrive burst).collect encode)
      have first := length_collect_le encode (inbox.arrive burst)
      have arrived : (inbox.arrive burst).buffered.length = _ := List.length_append
      rw [List.flatten_cons, List.length_append]
      exact Nat.le_trans rest (by omega)

/-- What is no longer than the cap as a whole never exceeds it. -/
theorem fits_of_length_le {cap : Nat} (frames : List Frame) {bursts : List (List α)}
    (short : bursts.flatten.length ≤ cap) : Fits encode cap ⟨[], frames, []⟩ bursts := by
  rintro earlier burst ⟨later, rfl⟩
  have before := length_after_le encode ⟨[], frames, []⟩ earlier
  rw [arrive, List.length_append]
  simp only [List.flatten_append, List.length_append, List.flatten_cons, List.flatten_nil,
    List.length_nil] at before short
  omega

/-- The inbox of a stream of `frames` of which `arrived` has come, and `upcoming` has not. -/
structure Reads (frames : List Frame) (tail arrived upcoming : List α)
    (inbox : Inbox Frame α) : Prop where
  order : inbox.returned ++ inbox.pending = frames
  kept : inbox.returned.flatMap encode ++ inbox.buffered = arrived
  stream : inbox.buffered ++ upcoming = inbox.pending.flatMap encode ++ tail

variable {encode} {frames : List Frame} {tail arrived upcoming : List α}
  {inbox : Inbox Frame α}

omit [DecidableEq α] in
theorem Reads.start (stream : upcoming = frames.flatMap encode ++ tail) :
    Reads encode frames tail [] upcoming ⟨[], frames, []⟩ :=
  ⟨rfl, rfl, stream⟩

omit [DecidableEq α] in
theorem Reads.arrive {burst : List α}
    (reads : Reads encode frames tail arrived (burst ++ upcoming) inbox) :
    Reads encode frames tail (arrived ++ burst) upcoming (inbox.arrive burst) where
  order := reads.order
  kept := by rw [← reads.kept, List.append_assoc]; rfl
  stream := (List.append_assoc _ _ _).trans reads.stream

/-- One attempt to return a frame: the next one of the stream, if it is there; otherwise
nothing changes, and what is buffered has to go on. -/
theorem Reads.collect_cases (code : PrefixCode encode) (broken : Incomplete encode tail)
    (reads : Reads encode frames tail arrived upcoming inbox) :
    (∃ frame rest more, inbox.pending = frame :: rest ∧
        inbox.buffered = encode frame ++ more ∧
        inbox.collect encode = ⟨inbox.returned ++ [frame], rest, more⟩ ∧
        Reads encode frames tail arrived upcoming (inbox.collect encode)) ∨
      inbox.collect encode = inbox ∧ Incomplete encode inbox.buffered ∧
        (upcoming = [] → inbox.pending = []) := by
  obtain ⟨returned, pending, buffered⟩ := inbox
  rcases front_cases broken reads.stream with ⟨frame, rest, more, waiting, front, later⟩ |
    ⟨incomplete, ended⟩
  · dsimp only at waiting front
    subst waiting front
    have collected : collect encode ⟨returned, frame :: rest, encode frame ++ more⟩ =
        ⟨returned ++ [frame], rest, more⟩ := by
      simp [collect]
    refine .inl ⟨frame, rest, more, rfl, rfl, collected, ?_⟩
    rw [collected]
    constructor
    · rw [← reads.order, List.append_assoc]
      rfl
    · rw [← reads.kept, List.flatMap_append, List.append_assoc, List.flatMap_singleton]
    · exact later
  · refine .inr ⟨?_, incomplete, ended⟩
    cases pending with
    | nil => rfl
    | cons frame rest =>
        exact if_neg (code.not_prefix_of_incomplete incomplete frame)

theorem Reads.collect (code : PrefixCode encode) (broken : Incomplete encode tail)
    (reads : Reads encode frames tail arrived upcoming inbox) :
    Reads encode frames tail arrived upcoming (inbox.collect encode) := by
  rcases reads.collect_cases code broken with ⟨_, _, _, _, _, _, collected⟩ | ⟨unchanged, _⟩
  · exact collected
  · rwa [unchanged]

end Inbox

end RbctlDsl.Lib
