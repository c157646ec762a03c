import Mailroom.Pattern.Search

/-!
# Patterns without numbered groups

A search breaks down if it ends with a group whose places are crossed. A pattern none of whose
groups has a number has no places to remember.

* `Pattern.isUnnumbered`: no group of a pattern has a number;
* `Pattern.Step.IsQuiet`: a step that sets no marks where there are none;
* `Pattern.isQuiet_run`: a pattern without numbered groups is matched in quiet steps;
* `Pattern.exists_occursIn_eq_ok`: a search for it does not break down.
-/

namespace Mailroom.Pattern

/-- No group of the pattern has a number. -/
def isUnnumbered : Pattern → Bool
  | empty | never | test .. | anchor _ | backReference .. => true
  | cat a b | alt a b | choice _ a b => a.isUnnumbered && b.isUnnumbered
  | group index body => index.isNone && body.isUnnumbered
  | repeated _ _ _ body | atomic body | look _ _ body => body.isUnnumbered

/-! ### Quiet steps -/

/-- Nothing is remembered of groups. -/
def Memory.IsUnmarked (m : Memory) : Prop := m.marks = []

/-- An attempt that has remembered nothing of groups. -/
def Outcome.IsUnmarked (o : Outcome) : Prop := o.memory.IsUnmarked

/-- A step that remembers nothing of groups where nothing was remembered. -/
def Step.IsQuiet (s : Step) : Prop := ∀ place m, m.IsUnmarked → (s place m).IsUnmarked

theorem Memory.IsUnmarked.moveTo {m : Memory} (h : m.IsUnmarked) (place : Nat) :
    (m.moveTo place).IsUnmarked := h

theorem Memory.IsUnmarked.goBack {earlier now : Memory} (before : earlier.IsUnmarked)
    (h : now.IsUnmarked) (all : Bool) : (goBack all earlier now).IsUnmarked := by
  cases all with
  | true => exact before
  | false =>
    show now.marks.take _ = []
    rw [h, List.take_nil]

theorem Outcome.IsUnmarked.orElse {o : Outcome} (h : o.IsUnmarked) {next : Memory → Outcome}
    (hnext : ∀ m : Memory, m.IsUnmarked → (next m).IsUnmarked) : (o.orElse next).IsUnmarked := by
  unfold Outcome.orElse
  split
  · exact h
  · exact hnext _ h

theorem Outcome.IsUnmarked.failingAt {o : Outcome} (h : o.IsUnmarked) (place : Nat) :
    (o.failingAt place).IsUnmarked := by
  unfold Outcome.failingAt
  split <;> exact h

theorem isQuiet_finish : Step.IsQuiet finish := fun _ _ h => h

/-! ### Repetitions -/

section

variable {text : Array CodePoint} {body : Step → Step} {next : Step}

theorem isQuiet_repeatMost (hbody : ∀ s : Step, s.IsQuiet → (body s).IsQuiet) (hnext : next.IsQuiet)
    (least : Nat) (most : Option Nat) (budget count : Nat) (last : Option Nat) :
    (repeatMost body least most next budget count last).IsQuiet := by
  induction budget generalizing count last with
  | zero => exact hnext
  | succ budget ih =>
    intro place m h
    unfold repeatMost
    dsimp only
    split
    · exact (hbody _ (ih _ _) place _ (h.moveTo place)).failingAt place
    · refine Outcome.IsUnmarked.orElse ?_ fun later hlater =>
        (hnext place _ ((h.goBack hlater true).moveTo place)).failingAt place
      split
      · exact hbody _ (ih _ _) place _ (h.moveTo place)
      · exact h

theorem isQuiet_repeatLeast (hbody : ∀ s : Step, s.IsQuiet → (body s).IsQuiet)
    (hnext : next.IsQuiet) (least : Nat) (most : Option Nat) (inLoop : Bool) (budget count : Nat)
    (last : Option Nat) : (repeatLeast body least most inLoop next budget count last).IsQuiet := by
  induction budget generalizing count last with
  | zero => exact hnext
  | succ budget ih =>
    intro place m h
    unfold repeatLeast
    dsimp only
    split
    · exact (hbody _ (ih _ _) place _ (h.moveTo place)).failingAt place
    · refine (hnext place _ (h.moveTo place)).orElse fun later hlater => ?_
      have back := (Memory.IsUnmarked.goBack (h.moveTo place) hlater inLoop).moveTo place
      split
      · exact (hbody _ (ih _ _) place _ back).failingAt place
      · exact back

theorem isUnmarked_repeatAll (hbody : (body finish).IsQuiet) (least : Nat) (most : Option Nat)
    (budget count : Nat) (last : Option Nat) {m : Memory} (h : m.IsUnmarked) :
    (repeatAll body least most budget count last m).IsUnmarked := by
  induction budget generalizing count last m with
  | zero => exact h
  | succ budget ih =>
    have turn := hbody m.cursor m h
    unfold repeatAll
    dsimp only
    split
    · split
      · exact ih _ _ turn
      · exact turn
    · split
      · split
        · exact ih _ _ turn
        · exact h.goBack turn true
      · exact h

theorem isUnmarked_giveBack (hnext : next.IsQuiet) (inLoop : Bool) (likely : Nat → Bool)
    {earlier : Memory} (before : earlier.IsUnmarked) (first extra : Nat) {m : Memory}
    (h : m.IsUnmarked) : (giveBack next inLoop likely earlier first extra m).IsUnmarked := by
  induction extra generalizing m with
  | zero =>
    unfold giveBack
    refine Outcome.IsUnmarked.orElse ?_ fun later hlater => before.goBack hlater inLoop
    split
    · exact hnext _ _ (h.moveTo _)
    · exact h
  | succ extra ih =>
    unfold giveBack
    refine Outcome.IsUnmarked.orElse ?_ fun later hlater => ih (before.goBack hlater inLoop)
    split
    · exact hnext _ _ (h.moveTo _)
    · exact h

theorem isUnmarked_takeMore (hnext : next.IsQuiet) (inLoop : Bool) (accepts : Nat → Bool)
    (movesCursor : Bool) {earlier : Memory} (before : earlier.IsUnmarked) (extra place : Nat)
    {m : Memory} (h : m.IsUnmarked) :
    (takeMore next inLoop accepts movesCursor earlier extra place m).IsUnmarked := by
  induction extra generalizing place m with
  | zero =>
    unfold takeMore
    refine (hnext _ _ (h.moveTo _)).orElse fun later hlater => ?_
    have back := (before.goBack hlater inLoop).moveTo place
    dsimp only
    split
    · show Memory.IsUnmarked (if movesCursor then _ else _)
      split <;> exact back
    · exact back
  | succ extra ih =>
    unfold takeMore
    refine (hnext _ _ (h.moveTo _)).orElse fun later hlater => ?_
    have back := (before.goBack hlater inLoop).moveTo place
    dsimp only
    split
    · exact ih _ back
    · exact back

theorem isQuiet_runCounted (hnext : next.IsQuiet) (fold : Fold) (t : Test) (least : Nat)
    (most : Option Nat) (greed : Greed) (inLoop : Bool) (likely : Nat → Bool) :
    (runCounted text fold t least most greed inLoop likely next).IsQuiet := by
  intro place m h
  unfold runCounted
  dsimp only
  by_cases short : text.size - place < least
  · rw [if_pos short]
    exact h
  · rw [if_neg short]
    generalize countFrom text fold t place _ = count
    by_cases few : count < least
    · rw [if_pos few]
      exact h.moveTo _
    · rw [if_neg few]
      cases greed with
      | most => exact isUnmarked_giveBack hnext inLoop likely (h.moveTo _) _ _ (h.moveTo _)
      | least => exact isUnmarked_takeMore hnext inLoop _ _ (h.moveTo _) _ _ (h.moveTo _)
      | possessive => exact hnext _ _ (h.moveTo _)

end

/-! ### Patterns -/

/-- Going on after an attempt of its own, or failing as it has. -/
theorem Step.IsQuiet.goOn {next : Step} (hnext : next.IsQuiet) {o : Outcome} (h : o.IsUnmarked)
    (place : Nat) :
    (if o.found then next o.memory.cursor o.memory else o.failingAt place).IsUnmarked := by
  split
  · exact hnext _ _ h
  · exact h.failingAt place

/-- Going on if a test is passed. -/
theorem Step.IsQuiet.goOnIf {next : Step} (hnext : next.IsQuiet) (passed : Bool) (place : Nat)
    {m : Memory} (h : m.IsUnmarked) :
    (if passed then next place m else ⟨false, m⟩ : Outcome).IsUnmarked := by
  split
  · exact hnext _ _ h
  · exact h

/-- **A pattern without numbered groups is matched in quiet steps.** -/
theorem isQuiet_run (text : Array CodePoint) {p : Pattern} (unnumbered : p.isUnnumbered = true)
    (inLoop : Bool) (after : Opening) {next : Step} (hnext : next.IsQuiet) :
    (run text p inLoop after next).IsQuiet := by
  induction p generalizing inLoop after next with
  | empty => exact hnext
  | never => exact fun _ _ h => h
  | test fold t => exact fun place m h => hnext.goOnIf (passes text fold t place) _ h
  | anchor a => exact fun place m h => hnext.goOnIf (a.holds text place) _ h
  | cat a b iha ihb =>
    rw [isUnnumbered, Bool.and_eq_true] at unnumbered
    exact iha unnumbered.1 _ _ (ihb unnumbered.2 _ _ hnext)
  | alt a b iha ihb =>
    rw [isUnnumbered, Bool.and_eq_true] at unnumbered
    intro place m h
    unfold run
    refine Outcome.IsUnmarked.orElse ?_ fun later hlater =>
      ihb unnumbered.2 _ _ hnext _ _ (h.goBack hlater inLoop)
    split
    · exact iha unnumbered.1 _ _ hnext _ _ (h.moveTo _)
    · exact h
  | group index body ih =>
    rw [isUnnumbered, Bool.and_eq_true] at unnumbered
    cases index with
    | none => exact ih unnumbered.2 _ _ hnext
    | some index => cases unnumbered.1
  | repeated least most greed body ih =>
    unfold run
    split
    · exact isQuiet_runCounted hnext _ _ _ _ _ _ _
    · intro place m h
      cases greed with
      | most =>
        exact isQuiet_repeatMost (fun s hs => ih unnumbered _ _ hs) hnext _ _ _ _ _ _ _
          (h.moveTo place)
      | least =>
        exact isQuiet_repeatLeast (fun s hs => ih unnumbered _ _ hs) hnext _ _ _ _ _ _ _ _
          (h.moveTo place)
      | possessive =>
        exact hnext.goOn (isUnmarked_repeatAll (ih unnumbered inLoop .other isQuiet_finish) least
          most (least + 2 * text.size + 4) 0 none (h.moveTo place)) place
  | atomic body ih =>
    intro place m h
    exact hnext.goOn (ih unnumbered inLoop .other isQuiet_finish place _ (h.moveTo place)) place
  | look behind negated body ih =>
    intro place m h
    unfold run
    dsimp only
    generalize (if behind then body.width.low else 0) = back
    by_cases early : place < back
    · rw [if_pos early]
      exact hnext.goOnIf negated place h
    · rw [if_neg early]
      have inner := fun start =>
        ih unnumbered inLoop .other isQuiet_finish start _ (h.moveTo start)
      split
      · exact hnext _ _ (inner _)
      · exact hnext _ _ (h.goBack (inner _) inLoop)
      · exact inner _
  | backReference fold index width =>
    intro place m h
    unfold run
    split
    · split
      · exact hnext _ _ h
      · exact h
    · exact h
  | choice index present absent ihp iha =>
    rw [isUnnumbered, Bool.and_eq_true] at unnumbered
    intro place m h
    unfold run
    split
    · exact ihp unnumbered.1 _ _ hnext _ _ h
    · exact iha unnumbered.2 _ _ hnext _ _ h

theorem isUnmarked_searchFrom (text : Array CodePoint) {p : Pattern}
    (unnumbered : p.isUnnumbered = true) (place more : Nat) :
    (searchFrom text p place more).IsUnmarked := by
  have attempt := fun place =>
    isQuiet_run text unnumbered false .other isQuiet_finish place (.atPlace place) rfl
  induction more generalizing place with
  | zero => exact attempt place
  | succ more ih =>
    rw [searchFrom]
    exact (attempt place).orElse fun _ _ => ih (place + 1)

/-- **A search for a pattern without numbered groups does not break down.** -/
theorem exists_occursIn_eq_ok {p : Pattern} (unnumbered : p.isUnnumbered = true) (t : Text) :
    ∃ found, p.occursIn t = .ok found := by
  unfold occursIn
  dsimp only
  split
  · exact ⟨false, rfl⟩
  · have unmarked := isUnmarked_searchFrom t.toArray unnumbered 0
      (t.toArray.size - (p.width.low - 1))
    have crossed : Memory.hasCrossing (searchFrom t.toArray p 0
        (t.toArray.size - (p.width.low - 1))).memory = false := by
      unfold Memory.hasCrossing
      rw [show Memory.marks _ = [] from unmarked]
      rfl
    rw [crossed, Bool.and_false]
    exact ⟨_, rfl⟩

end Mailroom.Pattern
