import Mathlib.Tactic.Common
import FluentBuilder.Command.Arguments
import FluentBuilder.Proofs.Outcome

/-!
# Words one behind the other

The words of a call are read from left to right, so more words behind those that were read change
nothing about them.

* `readWords_append` — words behind other words;
* `IsOptions` — words that are options with their values, and nothing else;
* `readCall_named` — the call that options make in front of the name of a subcommand;
* `readCall_keepGoing` — the option to proceed adds itself to a call, and nothing else.
-/

namespace FluentBuilder

/-- A word that neither ends the reading nor names a subcommand is read before those behind it. -/
theorem exists_read_word {place : Option Subcommand} {word : String} {rest : List String}
    {g given : Given} (hword : word ≠ "--")
    (h : readWords place g (word :: rest) = .ok (given, none)) :
    ∃ g', ∀ more, readWords place g (word :: more) = readWords place g' more := by
  have hplain : (word == "--") = false := beq_false_of_ne hword
  unfold readWords at h
  simp only [hplain, Bool.false_eq_true, if_false] at h
  split at h
  · cases h
  · next hhelp =>
    split at h
    · cases h
    · next hname =>
      obtain ⟨g', hg', -⟩ := bind_eq_ok_iff.1 h
      refine ⟨g', fun more => ?_⟩
      conv =>
        lhs
        unfold readWords
      simp only [hplain, Bool.false_eq_true, if_false, if_neg hhelp, hname, hg', bind, Except.bind]

/-- **Words are read one behind the other**, unless two hyphens end the reading. -/
theorem readWords_append {place : Option Subcommand} {words : List String} (hwords : "--" ∉ words)
    {g given : Given} (h : readWords place g words = .ok (given, none)) (more : List String) :
    readWords place g (words ++ more) = readWords place given more := by
  induction words generalizing g with
  | nil =>
    cases h
    rfl
  | cons word rest ih =>
    have hword : word ≠ "--" := fun hsame => hwords (by simp [hsame])
    obtain ⟨g', hstep⟩ := exists_read_word hword h
    rw [List.cons_append, hstep]
    rw [hstep] at h
    exact ih (fun hmem => hwords (List.mem_cons_of_mem word hmem)) h

/-! ### Options -/

/-- Words that are options with their values, and what they say. -/
structure IsOptions (place : Option Subcommand) (words : List String) (given : Given) : Prop where
  reads : readWords place {} words = .ok (given, none)
  isComplete : given.isAwaiting = false
  no_hyphens : "--" ∉ words

/-- Options that are settled stay so, and settling adds no flag. -/
theorem settle_spec {g g' : Given} (h : g.settle = .ok g') :
    g'.pending = none ∧ g'.flags = g.flags := by
  unfold Given.settle at h
  split at h
  · next hnone =>
    cases h
    exact ⟨hnone, rfl⟩
  · cases h
  · next switch value _ =>
    unfold Given.addValue at h
    cases switch <;> simp only [reduceCtorEq] at h
    all_goals
      split at h
      all_goals cases h
      exact ⟨rfl, rfl⟩

theorem settle_of_pending {g : Given} (h : g.pending = none) : g.settle = .ok g := by
  simp [Given.settle, h]

theorem complete_of_pending {g : Given} (h : g.pending = none) (env : Environment) :
    g.complete env = if g.config.isNone && env.get? configVariable == some "" then .error .usage
      else .ok g := by
  simp only [Given.complete, settle_of_pending h, bind, Except.bind]
  split <;> rfl

/-! ### Calls -/

/-- The call that options make in front of the name of a subcommand, with those behind it. -/
def Given.callWith (outer : Given) (env : Environment) (s : Subcommand) (inner : Given) :
    Except NoCall Call := do
  let inner ← inner.complete env
  let outer ← outer.complete env
  return {
    action := s.action inner.flags
    config := inner.config <|> outer.config <|> env.get? configVariable
    source := inner.source <|> outer.source
    output := inner.output <|> outer.output }

theorem readWords_label (s : Subcommand) (rest : List String) {given : Given}
    (h : given.isAwaiting = false) :
    readWords none given (s.label :: rest) = .ok (given, some (s, rest)) := by
  have hname : subcommands.lookup s.label = some s := by cases s <;> rfl
  have hhelp : (s.label == "--") = false ∧ (s.label == "help") = false := by cases s <;> decide
  unfold readWords
  simp [h, hname, hhelp]

/-- **The call that options make with a subcommand.** -/
theorem readCall_named {outer : List String} {given : Given} (h : IsOptions none outer given)
    (s : Subcommand) (rest : List String) (env : Environment) :
    readCall env (outer ++ s.label :: rest)
      = readWords (some s) {} rest >>= fun found => given.callWith env s found.1 := by
  unfold readCall
  rw [readWords_append h.no_hyphens h.reads, readWords_label s rest h.isComplete]
  simp only [Given.callWith, bind, Except.bind, pure, Except.pure]

/-- Behind other options the option to proceed is one flag more. -/
theorem readWords_keepGoing {inner : List String} {g : Given}
    (h : IsOptions (some .generate) inner g) (hflag : .keepGoing ∉ g.flags) :
    readWords (some .generate) {} (inner ++ ["--keep-going"])
      = g.settle.map fun g' => ({ g' with flags := .keepGoing :: g'.flags }, none) := by
  rw [readWords_append h.no_hyphens h.reads]
  show (g.addFlag (some .generate) .keepGoing >>= fun g' => .ok (g', none)) = _
  cases hsettle : g.settle with
  | error e => simp [Given.addFlag, hsettle, bind, Except.bind, Except.map]
  | ok g' =>
    rw [← (settle_spec hsettle).2] at hflag
    simp [Given.addFlag, hsettle, hflag, bind, Except.bind, Except.map, pure, Except.pure]

/-- **The option to proceed adds itself to a call, and nothing else.** -/
theorem readCall_keepGoing {outer inner : List String} {given g : Given}
    (houter : IsOptions none outer given) (hinner : IsOptions (some .generate) inner g)
    (hflag : .keepGoing ∉ g.flags) (env : Environment) :
    (∀ call, readCall env (outer ++ "generate" :: inner) = .ok call → call.action = .generate false)
      ∧ readCall env (outer ++ "generate" :: (inner ++ ["--keep-going"]))
        = (readCall env (outer ++ "generate" :: inner)).map fun call =>
          { call with action := .generate true } := by
  have hplain : readCall env (outer ++ "generate" :: inner) = given.callWith env .generate g := by
    rw [show "generate" = Subcommand.generate.label from rfl, readCall_named houter, hinner.reads]
    rfl
  have hproceed : readCall env (outer ++ "generate" :: (inner ++ ["--keep-going"])) = g.settle
    >>= fun g' =>
      given.callWith env .generate { g' with flags := .keepGoing :: g'.flags } := by
    rw [show "generate" = Subcommand.generate.label from rfl, readCall_named houter,
      readWords_keepGoing hinner hflag]
    cases g.settle <;> rfl
  rw [hplain, hproceed]
  cases hsettle : g.settle with
  | error e => simp [Given.callWith, Given.complete, hsettle, bind, Except.bind, Except.map]
  | ok g' =>
    obtain ⟨hpending, hflags⟩ := settle_spec hsettle
    rw [← hflags] at hflag
    have hcomplete : g.complete env = g'.complete env := by
      unfold Given.complete
      rw [hsettle, settle_of_pending hpending]
    have hmore : { g' with flags := Switch.keepGoing :: g'.flags }.pending = none := hpending
    simp only [Given.callWith, hcomplete, complete_of_pending hpending, complete_of_pending hmore,
      bind, Except.bind]
    -- the flag is no part of what the environment is asked for
    cases g'.config.isNone && env.get? configVariable == some "" with
    | true => simp [Except.map]
    | false =>
      cases given.complete env with
      | error e => simp [Except.map]
      | ok outer => simp [Except.map, pure, Except.pure, Subcommand.action, hflag]

end FluentBuilder
