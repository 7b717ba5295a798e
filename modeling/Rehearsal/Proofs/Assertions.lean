import Rehearsal.Assertion
import Rehearsal.Proofs.Drive.Verdicts

/-!
# Assertions and root causes

An assertion holds of just the results that it names, so of a driven run just one of the three kinds
of assertion can hold. The wording of an error ends with the wording of whatever is behind it,
however many drivers reported it in turn, so what a test looks for in the root cause is found in the
wording of the failure.
-/

namespace Rehearsal

/-! ## What is behind an error -/

namespace Error

/-- How many failures of participants are one inside the other. -/
def depth : Error → Nat
  | participantFailed _ source => source.depth + 1
  | _ => 0

/-- The error inside all failures of participants. -/
def innermost : Error → Error
  | participantFailed _ source => source.innermost
  | e => e

/-- Whether an error is a JSON fault, which is an error of its own. -/
def isSerialization : Error → Bool
  | serialization _ => true
  | _ => false

/-- The wording of what is behind all else. -/
def rootCause : Error → String
  | participantFailed _ source => source.rootCause
  | serialization refusal => refusal.message
  | e => e.text

/-- One wording ends with another. -/
def EndsWith (above below : String) : Prop := below.toList <:+ above.toList

theorem EndsWith.trans {a b c : String} (h : EndsWith a b) (h' : EndsWith b c) : EndsWith a c :=
  List.IsSuffix.trans h' h

theorem EndsWith.append (front s : String) : EndsWith (front ++ s) s := by
  rw [EndsWith, String.toList_append]
  exact List.suffix_append _ _

/-- A participant's failure is worded by what it failed with, after its name. -/
theorem endsWith_participantFailed (participant : String) (source : Error) :
    EndsWith (participantFailed participant source).text source.text :=
  .append _ _

/-- **Every wording ends with all wordings behind it.** -/
theorem pairwise_sources (e : Error) : List.Pairwise EndsWith (e.text :: e.sources) := by
  induction e with
  | participantFailed participant source ih =>
    refine List.pairwise_cons.mpr ⟨fun below there => ?_, ih⟩
    have first := endsWith_participantFailed participant source
    rcases List.mem_cons.mp there with rfl | behind
    · exact first
    · exact first.trans ((List.pairwise_cons.mp ih).1 below behind)
  | serialization refusal =>
    refine List.pairwise_cons.mpr ⟨fun below there => ?_, List.pairwise_singleton _ _⟩
    rw [List.mem_singleton.mp there]
    exact .append _ _
  | _ => exact List.pairwise_singleton _ _

theorem length_sources (e : Error) :
    e.sources.length = e.depth + e.innermost.isSerialization.toNat := by
  induction e with
  | participantFailed participant source ih =>
    rw [sources, List.length_cons, ih, depth, innermost]
    omega
  | _ => rfl

theorem getLast?_sources (participant : String) (source : Error) :
    (participantFailed participant source).sources.getLast? = some source.rootCause := by
  induction source generalizing participant with
  | participantFailed inner source ih =>
    rw [sources, sources, List.getLast?_cons_cons]
    exact ih inner
  | _ => rfl

/-- A text in anything behind a failure is a text in what the participant failed with. -/
theorem infix_of_mem_sources {participant cause : String} {source : Error} {excerpt : List Char}
    (behind : cause ∈ (participantFailed participant source).sources)
    (inside : excerpt <:+: cause.toList) : excerpt <:+: source.text.toList := by
  rcases List.mem_cons.mp behind with rfl | deeper
  · exact inside
  · have ends := (List.pairwise_cons.mp (pairwise_sources source)).1 cause deeper
    exact inside.trans ends.isInfix

end Error

/-! ## What passes -/

namespace Assertion

variable {result : Except Error Unit}

@[simp] theorem check_completed : completed.check result = .ok () ↔ result = .ok () := by
  cases result <;> simp [check]

@[simp] theorem check_failedWith {participant excerpt : String} :
    (failedWith participant excerpt).check result = .ok () ↔
      ∃ source, result = .error (.participantFailed participant source) ∧
        excerpt.toList <:+: source.text.toList := by
  cases result with
  | ok => simp [check]
  | error e =>
    cases e with
    | participantFailed actual source =>
      by_cases same : actual = participant
      · simp [check, same, ← Text.occursIn_iff]
      · simp [check, same]
    | _ => simp [check]

@[simp] theorem check_deadlocked {participant : String} :
    (deadlocked participant).check result = .ok () ↔
      ∃ stuck timeout, result = .error (.participantDeadlock stuck timeout) ∧
        participant ∈ stuck := by
  cases result with
  | ok => simp [check]
  | error e => cases e <;> simp [check]

/-- The kinds of assertion. -/
inductive Helper where
  | completed | failedWith | deadlocked

/-- The assertion of a kind about this participant and this text, as far as the kind asks for
them. -/
def Helper.about (participant excerpt : String) : Helper → Assertion
  | completed => .completed
  | failedWith => .failedWith participant excerpt
  | deadlocked => .deadlocked participant

/-- No result satisfies assertions of two kinds: it would be of two forms. -/
theorem helper_unique {p q s t : String} {helper other : Helper}
    (holds : (helper.about p s).check result = .ok ())
    (holds' : (other.about q t).check result = .ok ()) : helper = other := by
  cases helper <;> cases other <;>
    grind [Helper.about, check_completed, check_failedWith, check_deadlocked]

end Assertion

/-! ## What a run can return -/

section Runs

variable {config : Config} {participants : List Participant} {settled : List Settlement}
  {result : Except Error Unit}

theorem mem_of_mem_unsettled {name : String} (h : name ∈ unsettled participants settled) :
    ∃ p ∈ participants, p.name = name := by
  obtain ⟨⟨p, i⟩, there, rfl⟩ := List.mem_map.mp h
  have at_i := List.mem_zipIdx_iff_getElem?.mp (List.mem_filter.mp there).1
  exact ⟨p, List.mem_of_getElem? at_i, rfl⟩

/-- A result that is right for the settlements is a success, the failure of a participant, or a list
of participants who were stuck. -/
theorem Judged.passes (judged : Judged config participants settled result)
    (enough : 2 ≤ participants.length) :
    ∃ helper : Assertion.Helper, ∃ p ∈ participants, ∃ excerpt,
      (helper.about p.name excerpt).check result = .ok () := by
  rcases well_or_first_failure settled with well | ⟨before, s, after, failure, split, well, bad⟩
  · cases left : unsettled participants settled with
    | nil =>
      have all := (unsettled_eq_nil_iff participants settled).mp left
      have success : result = .ok () := judged.completed.mpr fun i hi => by
        obtain ⟨s, hs, same⟩ := List.mem_map.mp (all i hi)
        exact ⟨s, hs, same, well s hs⟩
      exact ⟨.completed, participants[0], List.getElem_mem _, "",
        Assertion.check_completed.mpr success⟩
    | cons name others =>
      have stuck := judged.stuck well (by simp [left])
      have there : name ∈ unsettled participants settled := by simp [left]
      obtain ⟨p, hp, rfl⟩ := mem_of_mem_unsettled there
      exact ⟨.deadlocked, p, hp, "", Assertion.check_deadlocked.mpr ⟨_, _, stuck, there⟩⟩
  · obtain ⟨p, e, at_s, -, failed⟩ := judged.first before s after failure split well bad
    exact ⟨.failedWith, p, List.mem_of_getElem? at_s, "",
      Assertion.check_failedWith.mpr ⟨_, failed, List.nil_infix⟩⟩

end Runs

namespace Assertion

/-- **An assertion passes for just the results it names, and root causes stay in sight.** No result
satisfies two kinds of assertion, and whatever a run of two or more participants returns satisfies
one kind, for one of them. The wordings of what is behind an error each end the wordings above them,
down to the root cause, so a test that names the outermost participant finds what it looks for. -/
theorem passes_exactly [Clock] :
    (∀ result : Except Error Unit,
      (completed.check result = .ok () ↔ result = .ok ()) ∧
      (∀ participant excerpt, (failedWith participant excerpt).check result = .ok () ↔
        ∃ source, result = .error (.participantFailed participant source) ∧
          excerpt.toList <:+: source.text.toList) ∧
      (∀ participant, (deadlocked participant).check result = .ok () ↔
        ∃ stuck timeout, result = .error (.participantDeadlock stuck timeout) ∧
          participant ∈ stuck) ∧
      ∀ (helper other : Helper) (p q s t : String),
        (helper.about p s).check result = .ok () → (other.about q t).check result = .ok () →
          helper = other) ∧
    (∀ stage : Stage, stage.Reached → ∀ (config : Config) (participants : List Participant),
      2 ≤ participants.length →
        (∃ marks w r, Over config participants stage marks w r ∧
          drive config participants stage = concluded config participants w r) ∧
        ∀ marks w r, Over config participants stage marks w r →
          ∃! helper : Helper, ∃ p ∈ participants, ∃ excerpt,
            (helper.about p.name excerpt).check (concluded config participants w r).1.result =
              .ok ()) ∧
    (∀ e : Error,
      List.Pairwise Error.EndsWith (e.text :: e.sources) ∧
      e.sources.length = e.depth + e.innermost.isSerialization.toNat) ∧
    ∀ (participant : String) (source : Error),
      (Error.participantFailed participant source).sources.getLast? = some source.rootCause ∧
      ∀ cause ∈ (Error.participantFailed participant source).sources, ∀ excerpt : String,
        excerpt.toList <:+: cause.toList →
          (failedWith participant excerpt).check (.error (.participantFailed participant source)) =
            .ok () := by
  refine ⟨fun result => ⟨check_completed, fun _ _ => check_failedWith, fun _ => check_deadlocked,
      fun _ _ _ _ _ _ => helper_unique⟩, fun stage h config participants enough => ?_,
    fun e => ⟨e.pairwise_sources, e.length_sources⟩, fun participant source =>
      ⟨source.getLast?_sources participant, fun cause behind excerpt inside => ?_⟩⟩
  · refine ⟨?_, fun marks w r atEnd => ?_⟩
    · obtain ⟨marks, w, r, atEnd, -, same⟩ := drive_possible h config enough
      exact ⟨marks, w, r, atEnd, same⟩
    have closed := atEnd.closed h
    have judged := judged_watchOf config closed.inside closed.once
    rw [← closed.watch] at judged
    obtain ⟨helper, passes⟩ := judged.passes enough
    refine ⟨helper, passes, fun other passes' => ?_⟩
    obtain ⟨p, -, s, holds⟩ := passes
    obtain ⟨q, -, t, holds'⟩ := passes'
    exact helper_unique holds' holds
  · exact check_failedWith.mpr ⟨source, rfl, Error.infix_of_mem_sources behind inside⟩

attribute [local instance] Clock.usual

/-- Of two participants of one name the second fails, and the third waits in vain. -/
def quarrel : List Participant :=
  [⟨"alice", [⟨.pause, false⟩, ⟨.pause, false⟩]⟩,
    ⟨"alice", [⟨.pause, false⟩, ⟨.fail (.flowFailed "no"), false⟩]⟩,
    ⟨"bob", [⟨.receive "bob" .text, false⟩]⟩]

/-- Of the quarrel it is a failure that an assertion finds, and of a failure in a failure one finds
the place of the JSON fault at its root. -/
theorem passes_exactly_quarrel :
    Stage.pair.Reached ∧ 2 ≤ quarrel.length ∧
      (∃! helper : Helper, ∃ p ∈ quarrel, ∃ excerpt,
        (helper.about p.name excerpt).check
          (drive .fast quarrel Stage.pair).1.result = .ok ()) ∧
      (failedWith "alice" "line 3").check (.error (.participantFailed "alice"
        (.participantFailed "bob" (.serialization ⟨.endInList, some ⟨3, 1⟩⟩)))) = .ok () := by
  obtain ⟨-, runs, -, rooted⟩ := passes_exactly
  obtain ⟨⟨marks, w, r, atEnd, same⟩, one⟩ :=
    runs Stage.pair .pair .fast quarrel (by decide)
  refine ⟨.pair, by decide, ?_, ?_⟩
  · rw [same]
    exact one marks w r atEnd
  · exact (rooted "alice" _).2 _ (List.mem_of_getLast? (rooted "alice" _).1) "line 3"
      (Text.occursIn_iff.mp (by decide))

end Assertion

end Rehearsal
