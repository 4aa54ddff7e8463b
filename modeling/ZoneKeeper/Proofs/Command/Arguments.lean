import ZoneKeeper.Command.Arguments
import ZoneKeeper.Proofs.Outcome

/-!
# Asking for a dry run

Nothing that is read of a command line depends on whether a dry run is asked for, so the option in
front of a line changes what is asked for in this one point and in nothing else, faults included.
-/

namespace ZoneKeeper.Command

open Text

/-- The same arguments for a dry run. -/
def Arguments.dry (a : Arguments) : Arguments := { a with isDry := true }

/-- The same request for a dry run. -/
def Request.dry : Request → Request
  | .help => .help
  | .run a => .run a.dry

namespace Read

/-- What is read, with a dry run asked for. -/
def dry (r : Read) : Read := { r with isDry := true }

theorem withArgument_dry (r : Read) (o : Opt) (t : Text) :
    r.dry.withArgument o t = (r.withArgument o t).dry := by
  cases o <;> rfl

theorem foldl_withUseless_dry (r : Read) (after : List Text) :
    after.foldl withUseless r.dry = (after.foldl withUseless r).dry := by
  induction after generalizing r with
  | nil => rfl
  | cons t after ih => exact ih (r.withUseless t)

theorem toRequest_dry (r : Read) : r.dry.toRequest = r.toRequest.map Request.dry := by
  obtain ⟨config, target, isDry, level, useless⟩ := r
  cases config with
  | none => rfl
  | some config =>
    by_cases huseless : useless = [] <;>
      simp [toRequest, dry, huseless, Except.map, Request.dry, Arguments.dry]

end Read

/-- The words ask for the same, whether a dry run was asked for before them or not. -/
theorem readWords_dry (after : List Text) (r : Read) (words : List Word) :
    readWords after r.dry words = (readWords after r words).map Request.dry := by
  fun_induction readWords after r words with
  | case1 r => rw [readWords, Read.foldl_withUseless_dry, Read.toRequest_dry]
  | case2 r t rest ih => exact ih
  | case3 r t rest ih => exact ih
  | case4 r o name attached rest htakes ih =>
    rw [readWords, if_pos htakes, Read.withArgument_dry, ih]
  | case5 r o name attached rest htakes hletters =>
    rw [readWords, if_neg htakes, if_pos hletters]
    cases checkLetters rest attached <;> rfl
  | case6 r o name attached rest htakes hletters =>
    rw [readWords, if_neg htakes, if_neg hletters]
    rfl
  | case7 r name rest => rfl
  | case8 r name rest ih => exact ih
  | case9 r o name t rest hhelp hdry ih =>
    rw [readWords, Read.withArgument_dry, ih]
    · exact hhelp
    · exact hdry
  | case10 r o name rest hhelp hdry hargument =>
    rw [readWords]
    · rfl
    · exact hhelp
    · exact hdry
    · exact hargument

/-- A line with the option for a dry run in front asks for what the line asks for, as a dry run. -/
theorem ofTexts_cons_dryRun (line : List Text) :
    Request.ofTexts ("--dry-run".toList :: line) = (Request.ofTexts line).map Request.dry := by
  have hword : Word.ofText "--dry-run".toList = .ok (.opt .dryRun "--dry-run".toList none) := rfl
  have htake : ("--dry-run".toList :: line).takeWhile (fun t => t ≠ "--".toList) =
      "--dry-run".toList :: line.takeWhile fun t => t ≠ "--".toList := rfl
  have hdrop : ("--dry-run".toList :: line).dropWhile (fun t => t ≠ "--".toList) =
      line.dropWhile fun t => t ≠ "--".toList := rfl
  rw [Request.ofTexts, Request.ofTexts, htake, hdrop, List.mapM_cons, hword, ok_bind]
  cases (line.takeWhile fun t => t ≠ "--".toList).mapM Word.ofText with
  | error misuse => rfl
  | ok words => exact readWords_dry _ .empty words

end ZoneKeeper.Command
