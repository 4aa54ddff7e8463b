import ZoneKeeper.Declaration.Session
import ZoneKeeper.Proofs.Declaration.Call

/-!
# Calls that fail leave no trace

A builder that is used in place is after every call what it is where every call makes a new builder,
and after a call that fails what it was before: no check stands after a change. So the answers to
calls, and the domains that are open after them, are what they are without the calls that fail.
-/

namespace ZoneKeeper.Declaration

open Text

/-! ## Activities in turn -/

namespace Activity

variable {α β : Type}

@[simp] theorem on_pure (a : α) (b : Builder) : (pure a : Activity α).on b = (.ok a, b) := rfl

@[simp] theorem on_get (b : Builder) : (get : Activity Builder).on b = (.ok b, b) := rfl

@[simp] theorem on_modify (f : Builder → Builder) (b : Builder) :
    (modify f : Activity PUnit).on b = (.ok (), f b) := rfl

@[simp] theorem on_refuse (cause : Cause) (line : Option Nat) (b : Builder) :
    (refuse cause line : Activity α).on b = (.error ⟨cause, line⟩, b) := rfl

/-- Reading leaves the builder as it is. -/
@[simp] theorem on_reading (x : Except Cause α) (line : Option Nat) (b : Builder) :
    (reading x line).on b = (x.mapError (⟨·, line⟩), b) := by
  cases x <;> rfl

/-- An activity goes on with the builder that the one before it leaves, if that does not fail. -/
@[simp] theorem on_bind (x : Activity α) (f : α → Activity β) (b : Builder) :
    (x >>= f).on b = match x.on b with
      | (.ok a, between) => (f a).on between
      | (.error fault, between) => (.error fault, between) := by
  cases hx : x.on b with
  | mk outcome between =>
    have hrun : (ExceptT.run x).run b = (outcome, between) := hx
    rw [on, ExceptT.run_bind, StateT.run_bind, hrun]
    cases outcome <;> rfl

@[simp] theorem on_map (f : α → β) (x : Activity α) (b : Builder) :
    (f <$> x).on b = ((x.on b).1.map f, (x.on b).2) := by
  rw [map_eq_pure_bind, on_bind]
  rcases x.on b with ⟨_ | _, between⟩ <;> rfl

end Activity

/-! ## In place and anew -/

/-- What comes of a step that makes a new builder or fails, and the builder that is used after it:
the one from before, if the step fails. -/
def Builder.stepped (b : Builder) : Except Fault Builder → Except Fault Unit × Builder
  | .ok b' => (.ok (), b')
  | .error fault => (.error fault, b)

namespace Activity

variable {b : Builder}

theorem on_startDomain (a : Attributes) (line : Option Nat) (hclosed : b.openDomain = none) :
    (startDomain a line).on b = b.stepped ((b.startDomain a).mapError (⟨·, line⟩)) := by
  unfold startDomain Builder.startDomain
  by_cases hname : readName a = []
  · simp [hname, hclosed, Builder.stepped, Except.mapError]
  · by_cases hnew : b.zones.has (readName a) = true
    · simp [hname, hclosed, hnew, Builder.stepped, Except.mapError]
    · cases hz : readZone a (readName a) <;>
        simp [hname, hclosed, hnew, hz, Builder.stepped, Except.mapError]

theorem on_startRecord {domain : Text} (a : Attributes) (line : Option Nat)
    (hopen : b.openDomain = some domain) :
    (startRecord domain a line).on b = b.stepped ((b.startRecord a).mapError (⟨·, line⟩)) := by
  unfold startRecord Builder.startRecord
  cases hr : readRecord a domain <;> simp [hopen, hr, Builder.stepped, Except.mapError]

/-- The beginning of an element changes what it is to change, and nothing if it is refused. -/
theorem on_start (b : Builder) (tag : Text) (a : Attributes) (line : Option Nat) :
    (start tag a line).on b = b.stepped (b.start tag a line) := by
  unfold start Builder.start
  by_cases hdomain : tag = domainTag
  · rw [if_pos hdomain, if_pos hdomain, on_bind, on_get]
    dsimp only
    cases hopen : b.openDomain with
    | some outer => simp [Builder.startDomain, hopen, Builder.stepped, Except.mapError]
    | none => exact on_startDomain a line hopen
  · rw [if_neg hdomain, if_neg hdomain]
    by_cases hrecord : tag = recordTag
    · rw [if_pos hrecord, if_pos hrecord, on_bind, on_get]
      dsimp only
      cases hopen : b.openDomain with
      | none => simp [Builder.startRecord, hopen, Builder.stepped, Except.mapError]
      | some domain => exact on_startRecord a line hopen
    · rw [if_neg hrecord, if_neg hrecord]
      rfl

theorem on_finish (b : Builder) (tag : Text) : (finish tag).on b = (.ok (), b.finish tag) := by
  obtain ⟨zones, openDomain⟩ := b
  unfold finish Builder.finish
  by_cases hdomain : tag = domainTag
  · cases openDomain <;> simp [hdomain]
  · simp [hdomain]

theorem on_build (b : Builder) : build.on b = (b.build, b) := by
  unfold build Builder.build
  cases hopen : b.openDomain <;> simp [hopen]

end Activity

/-! ## Sessions -/

/-- What a call is answered with. -/
inductive Reply where
  /-- It is done. -/
  | done
  /-- The catalogue. -/
  | catalogue (zones : Catalogue)
  /-- It is refused. -/
  | refused (fault : Fault)
  deriving DecidableEq, Repr

/-- Whether a call is refused. -/
def Reply.isRefusal : Reply → Bool
  | .refused _ => true
  | _ => false

/-- The answer for what comes of a call. -/
def Reply.ofOutcome : Except Fault Reply → Reply
  | .ok reply => reply
  | .error fault => .refused fault

/-- The activity that a call starts, with the answer it is to give. -/
def Call.activity : Call → Activity Reply
  | .start tag attributes line => do
    Activity.start tag (.ofTexts attributes) line
    return .done
  | .finish tag => do
    Activity.finish tag
    return .done
  | .build => return .catalogue (← Activity.build)

/-- A call in a session, its answer and the domain that is open after it. -/
structure Turn where
  /-- The call. -/
  call : Call
  /-- Its answer. -/
  reply : Reply
  /-- The domain that is open after it. -/
  openDomain : Option Text
  deriving DecidableEq, Repr

namespace Builder

variable {b : Builder} {c : Call}

/-- The answer to a call, and the builder after it. -/
def answer (b : Builder) (c : Call) : Reply × Builder :=
  let (outcome, after) := c.activity.on b
  (.ofOutcome outcome, after)

/-- The turns of a session, and the builder after them. -/
def session (b : Builder) : List Call → List Turn × Builder
  | [] => ([], b)
  | c :: calls =>
    let (reply, after) := b.answer c
    let (turns, last) := session after calls
    (⟨c, reply, after.openDomain⟩ :: turns, last)

/-- A call leads where it leads without looking at answers. -/
theorem answer_snd (b : Builder) (c : Call) : (b.answer c).2 = b.after c := by
  cases c with
  | start tag attributes line =>
    simp only [answer, Call.activity, Activity.on_bind, Activity.on_start, after, stepped]
    cases b.start tag (.ofTexts attributes) line <;> rfl
  | finish tag => simp [answer, Call.activity, Activity.on_finish, after]
  | build =>
    simp only [answer, Call.activity, Activity.on_bind, Activity.on_build, after]
    cases b.build <;> rfl

/-- A call that is refused leaves the builder as it was. -/
theorem answer_of_refusal (h : (b.answer c).1.isRefusal = true) : (b.answer c).2 = b := by
  rw [answer_snd]
  cases c with
  | start tag attributes line =>
    cases hstart : b.start tag (.ofTexts attributes) line with
    | error fault => rw [after, hstart]
    | ok b' =>
      simp [answer, Call.activity, Activity.on_start, hstart, stepped, Except.map, Reply.ofOutcome,
        Reply.isRefusal] at h
  | finish tag =>
    simp [answer, Call.activity, Activity.on_finish, Except.map, Reply.ofOutcome,
      Reply.isRefusal] at h
  | build => rfl

theorem session_cons (b : Builder) (c : Call) (calls : List Call) :
    b.session (c :: calls) =
      (⟨c, (b.answer c).1, (b.answer c).2.openDomain⟩ :: ((b.answer c).2.session calls).1,
        ((b.answer c).2.session calls).2) := rfl

/-- A session leads where its calls lead. -/
theorem session_snd (b : Builder) (calls : List Call) : (b.session calls).2 = b.afterAll calls := by
  induction calls generalizing b with
  | nil => rfl
  | cons c calls ih =>
    rw [session_cons, afterAll_cons, ← answer_snd]
    exact ih _

/-- A session without the calls that were refused has the other turns, with the same answers and the
same open domains, and leads to the same builder. -/
theorem session_without_refusals (b : Builder) (calls : List Call) :
    let turns := (b.session calls).1
    let rest := turns.filter fun turn => !turn.reply.isRefusal
    turns.map (·.call) = calls ∧
      b.session (rest.map (·.call)) = (rest, (b.session calls).2) := by
  induction calls generalizing b with
  | nil => exact ⟨rfl, rfl⟩
  | cons c calls ih =>
    obtain ⟨hcalls, hrest⟩ := ih (b.answer c).2
    rw [session_cons]
    refine ⟨congrArg (c :: ·) hcalls, ?_⟩
    cases hrefused : (b.answer c).1.isRefusal with
    | true =>
      -- The call goes, and the others meet the builder that it left as it was.
      rw [answer_of_refusal hrefused] at hrest
      simp only [List.filter_cons, hrefused, Bool.not_true, Bool.false_eq_true, if_false]
      rw [answer_of_refusal hrefused]
      exact hrest
    | false =>
      simp only [List.filter_cons, hrefused, Bool.not_false, if_true, List.map_cons]
      rw [session_cons, hrest]

/-- A record outside of every domain and a domain without fields are refused, the calls around them
are not. -/
example :
    let calls : List Call := [.start recordTag [] (some 1), .finish recordTag,
      .start domainTag [("NAME".toList, "e".toList)] (some 2), .build]
    (empty.session calls).1.map (·.reply) = [.refused ⟨.strayRecord, some 1⟩, .done,
      .refused ⟨.missingField .admin "e".toList, some 2⟩, .catalogue []] := by
  decide +kernel

end Builder

end ZoneKeeper.Declaration
