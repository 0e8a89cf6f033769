import ScaleMetrics.Json.Reader
import ScaleMetrics.Proofs.Leaves

/-!
# Proofs — Leaves that are read

Integers of a document that was read are held in 64 bits (`held_of_read?`): a larger numeral is
another number or denotes nothing.  What one character leads to holds no other integers if there
were none before (`held_step`), and so does what a text leads to.
-/

namespace ScaleMetrics.Json

/-- A leaf that is held in 64 bits, with or without sign, if it is an integer. -/
def Held : Json → Prop
  | .number (.int n) => -0x8000000000000000 ≤ n ∧ n < 0x10000000000000000
  | _ => True

/-- All that is complete in an open container is held. -/
def Frame.Held : Frame → Prop
  | .items done => ∀ item ∈ done, item.All Json.Held
  | .members done _ _ => ∀ member ∈ done, member.2.All Json.Held

/-- The document that a word stands for is held. -/
def Mode.Held : Mode → Prop
  | .word _ document => document.All Json.Held
  | _ => True

/-- All that was read is held. -/
def State.Held : State → Prop
  | .reading stack mode => (∀ frame ∈ stack, frame.Held) ∧ mode.Held
  | .complete document => document.All Json.Held

variable {stack : List Frame} {document : Json} {state next : State} {c : Char}

theorem held_document (n : Numeral) : n.document.All Held := by
  rw [Numeral.document]
  dsimp only
  split_ifs with _ hnegative hheld hheld
  · split <;> simp [Held]
  · simp only [Bool.and_eq_true, decide_eq_true_eq] at hheld
    rw [int, all_number, Held]
    omega
  · split <;> simp [Held]
  · rw [int, all_number, Held]
    omega
  · split <;> simp [Held]

theorem held_give (hstack : ∀ frame ∈ stack, frame.Held) (hdocument : document.All Held) :
    (State.give stack document).Held := by
  unfold State.give
  split
  · exact hdocument
  all_goals
    obtain ⟨hframe, hrest⟩ := List.forall_mem_cons.1 hstack
    refine ⟨List.forall_mem_cons.2 ⟨?_, hrest⟩, trivial⟩
  · exact List.forall_mem_cons.2 ⟨hdocument, hframe⟩
  · exact List.forall_mem_cons.2 ⟨hdocument, hframe⟩
  · exact hframe

theorem held_startValue (hstack : ∀ frame ∈ stack, frame.Held)
    (h : startValue stack c = some next) : next.Held := by
  unfold startValue at h
  split at h
  · cases h
    exact ⟨hstack, trivial⟩
  · cases h
    exact ⟨List.forall_mem_cons.2 ⟨List.forall_mem_nil _, hstack⟩, trivial⟩
  · cases h
    exact ⟨List.forall_mem_cons.2 ⟨List.forall_mem_nil _, hstack⟩, trivial⟩
  · cases h
    exact ⟨hstack, (all_bool true).2 trivial⟩
  · cases h
    exact ⟨hstack, (all_bool false).2 trivial⟩
  · cases h
    exact ⟨hstack, all_null.2 trivial⟩
  · split_ifs at h
    cases h
    exact ⟨hstack, trivial⟩

theorem held_close (hstack : ∀ frame ∈ stack, frame.Held) (h : close stack c = some next) :
    next.Held := by
  unfold close at h
  split at h
  · cases h
    obtain ⟨hframe, hrest⟩ := List.forall_mem_cons.1 hstack
    exact held_give hrest (all_array.2 fun item hmem => hframe item (List.mem_reverse.1 hmem))
  · cases h
    obtain ⟨hframe, hrest⟩ := List.forall_mem_cons.1 hstack
    refine held_give hrest ?_
    split_ifs
    · exact all_broken.2 trivial
    · exact all_object.2 fun member hmem => hframe member (List.mem_reverse.1 hmem)
  · cases h

theorem held_afterValue (hstack : ∀ frame ∈ stack, frame.Held)
    (h : afterValue stack c = some next) : next.Held := by
  rw [afterValue.eq_def] at h
  split_ifs at h
  · cases h
    exact ⟨hstack, trivial⟩
  · split at h <;> cases h
    · exact ⟨hstack, trivial⟩
    · exact ⟨hstack, trivial⟩
  · exact held_close hstack h

theorem held_follow (hstate : state.Held) (h : state.follow c = some next) : next.Held := by
  cases state with
  | complete document =>
      rw [State.follow] at h
      split_ifs at h
      cases h
      exact hstate
  | reading stack mode => exact held_afterValue hstate.1 h

theorem held_endText {isKey : Bool} {text : OpenText} (hstack : ∀ frame ∈ stack, frame.Held)
    (h : endText stack isKey text = some next) : next.Held := by
  cases isKey with
  | true =>
      rw [endText.eq_def] at h
      dsimp only at h
      rw [if_pos rfl] at h
      split at h
      · cases h
        obtain ⟨hframe, hrest⟩ := List.forall_mem_cons.1 hstack
        exact ⟨List.forall_mem_cons.2 ⟨hframe, hrest⟩, trivial⟩
      · cases h
  | false =>
      cases h
      refine held_give hstack ?_
      split
      · exact (all_string _).2 trivial
      · exact all_broken.2 trivial

theorem held_stepText {isKey : Bool} {text : OpenText} (hstack : ∀ frame ∈ stack, frame.Held)
    (h : stepText stack isKey text c = some next) : next.Held := by
  rw [stepText] at h
  dsimp only at h
  split at h
  · split_ifs at h
    · exact held_endText hstack h
    · cases h
      exact ⟨hstack, trivial⟩
    · cases h
      exact ⟨hstack, trivial⟩
  · split_ifs at h
    · cases h
      exact ⟨hstack, trivial⟩
    · obtain ⟨d, -, h⟩ := Option.bind_eq_some_iff.1 h
      cases h
      exact ⟨hstack, trivial⟩
  · obtain ⟨d, -, h⟩ := Option.bind_eq_some_iff.1 h
    split_ifs at h <;> cases h
    · exact ⟨hstack, trivial⟩
    · exact ⟨hstack, trivial⟩

/-- **One character.** -/
theorem held_step (hstate : state.Held) (h : step state c = some next) : next.Held := by
  cases state with
  | complete document =>
      rw [step] at h
      split_ifs at h
      cases h
      exact hstate
  | reading stack mode =>
      obtain ⟨hstack, hmode⟩ := hstate
      cases mode with
      | text isKey text => exact held_stepText hstack h
      | numeral done =>
          rw [step] at h
          split_ifs at h
          · cases h
            exact ⟨hstack, trivial⟩
          · obtain ⟨numeral, -, h⟩ := Option.bind_eq_some_iff.1 h
            exact held_follow (held_give hstack (held_document numeral)) h
      | word left document =>
          cases left with
          | nil => exact held_follow (held_give hstack hmode) h
          | cons expected rest =>
              rw [step] at h
              split_ifs at h
              cases h
              exact ⟨hstack, hmode⟩
      | next => exact held_afterValue hstack h
      | value =>
          rw [step] at h
          split_ifs at h
          · cases h
            exact ⟨hstack, trivial⟩
          · exact held_startValue hstack h
      | firstItem =>
          rw [step] at h
          split_ifs at h
          · cases h
            exact ⟨hstack, trivial⟩
          · exact held_close hstack h
          · exact held_startValue hstack h
      | firstKey =>
          rw [step] at h
          split_ifs at h
          · cases h
            exact ⟨hstack, trivial⟩
          · exact held_close hstack h
          · cases h
            exact ⟨hstack, trivial⟩
      | key =>
          rw [step] at h
          split_ifs at h <;> cases h <;> exact ⟨hstack, trivial⟩
      | colon =>
          rw [step] at h
          split_ifs at h <;> cases h <;> exact ⟨hstack, trivial⟩

/-- **A text.** -/
theorem held_run {text : List Char} (hstate : state.Held) (h : run state text = some next) :
    next.Held := by
  induction text generalizing state with
  | nil =>
      cases h
      exact hstate
  | cons c rest ih =>
      obtain ⟨mid, hmid, h⟩ := Option.bind_eq_some_iff.1 h
      exact ih (held_step hstate hmid) h

theorem held_of_read? {text : String} (h : read? text = some document) : document.All Held := by
  rw [read?] at h
  split at h
  · next hrun =>
    cases h
    have hstart : (State.reading [] .value).Held := ⟨List.forall_mem_nil _, trivial⟩
    exact held_run hstart hrun
  · cases h

end ScaleMetrics.Json
