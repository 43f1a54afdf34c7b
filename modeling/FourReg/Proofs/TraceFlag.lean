import FourReg.CommandLine.Arguments
import Mathlib.Tactic.SplitIfs

/-!
# The trace flag

Arguments that ask for a plain run ask for a traced run of the same program, with the same kind of
report, when the trace flag is put in front of them. The flag is one of the options that the later
arguments are worked into, so it is carried through them: whatever they do to the options without
it they do to the options with it, as long as none of them is the flag itself.
-/

namespace FourReg

namespace Options

/-- The options as they are when the trace flag is given too. -/
def traced (options : Options) : Options :=
  { options with trace := true }

variable {options after : Options} {argument : String}

theorem addPath_traced (hadd : options.addPath argument = some after) :
    options.traced.addPath argument = some after.traced ∧ after.trace = options.trace := by
  unfold addPath at hadd ⊢
  split at hadd
  · cases hadd
  · rename_i hpath
    cases hadd
    exact ⟨if_neg hpath, rfl⟩

theorem addJson_traced (hadd : options.addJson = some after) :
    options.traced.addJson = some after.traced ∧ after.trace = options.trace := by
  unfold addJson at hadd ⊢
  split at hadd
  · cases hadd
  · rename_i hjson
    cases hadd
    exact ⟨if_neg hjson, rfl⟩

theorem trace_of_addTrace (hadd : options.addTrace = some after) : after.trace = true := by
  unfold addTrace at hadd
  split at hadd
  · cases hadd
  · cases hadd
    rfl

theorem foldlM_addPath_traced {arguments : List String}
    (hadd : arguments.foldlM addPath options = some after) :
    arguments.foldlM addPath options.traced = some after.traced ∧ after.trace = options.trace := by
  induction arguments generalizing options with
  | nil =>
    cases hadd
    exact ⟨rfl, rfl⟩
  | cons argument arguments ih =>
    rw [List.foldlM_cons] at hadd ⊢
    cases hfirst : options.addPath argument with
    | none =>
      rw [hfirst] at hadd
      cases hadd
    | some first =>
      rw [hfirst] at hadd
      obtain ⟨htraced, htrace⟩ := addPath_traced hfirst
      rw [htraced, ← htrace]
      exact ih hadd

end Options

theorem trace_of_clusterEffect {options after : Options} {letters : List Char}
    (heffect : clusterEffect true options letters = some (.options after)) :
    (letters = [] ∧ after = options) ∨ after.trace = true := by
  induction letters generalizing options with
  | nil =>
    cases heffect
    exact Or.inl ⟨rfl, rfl⟩
  | cons letter letters ih =>
    unfold clusterEffect at heffect
    split at heffect
    · rename_i hnil
      cases hnil
    · cases heffect
    · rename_i hletters
      cases hletters
      split at heffect
      · cases hadd : options.addTrace with
        | none =>
          rw [hadd] at heffect
          cases heffect
        | some first =>
          rw [hadd] at heffect
          rcases ih heffect with ⟨_, rfl⟩ | htrace
          · exact Or.inr (Options.trace_of_addTrace hadd)
          · exact Or.inr htrace
      · cases heffect

theorem map_options_eq_some {added : Option Options} {after : Options}
    (hmap : added.map ArgumentEffect.options = some (.options after)) : added = some after := by
  cases added with
  | none => cases hmap
  | some options =>
    cases hmap
    rfl

/-- An argument that does not ask for a trace does the same to options that ask for one. -/
theorem argumentEffect_traced {argument : String} {options after : Options}
    (heffect : argumentEffect true argument options = some (.options after))
    (hafter : after.trace = false) :
    argumentEffect true argument options.traced = some (.options after.traced) ∧
      options.trace = false := by
  unfold argumentEffect at heffect ⊢
  split at heffect
  · split_ifs at heffect ⊢ with hhelp htrace hjson
    · cases heffect
    · have hset := Options.trace_of_addTrace (map_options_eq_some heffect)
      rw [hafter] at hset
      cases hset
    · obtain ⟨htraced, hkept⟩ := Options.addJson_traced (map_options_eq_some heffect)
      rw [htraced, ← hkept]
      exact ⟨rfl, hafter⟩
  · rcases trace_of_clusterEffect heffect with ⟨hnil, _⟩ | hset
    · cases hnil
    · rw [hafter] at hset
      cases hset
  · obtain ⟨htraced, hkept⟩ := Options.addPath_traced (map_options_eq_some heffect)
    rw [htraced, ← hkept]
    exact ⟨rfl, hafter⟩

/-- What the run command makes of its options. -/
def Options.run (options : Options) : Command :=
  .run options.path options.trace options.json

theorem commandRequest_traced {options : Options} {arguments : List String}
    {path : Option String} {json : Bool}
    (hrequest :
      commandRequest true Options.run options arguments = some (.perform (.run path false json))) :
    commandRequest true Options.run options.traced arguments =
        some (.perform (.run path true json)) ∧
      options.trace = false := by
  fun_induction commandRequest true Options.run options arguments with
  | case1 options =>
    obtain ⟨givenPath, trace, givenJson⟩ := options
    cases hrequest
    exact ⟨rfl, rfl⟩
  | case2 options rest =>
    rw [commandRequest]
    cases hfold : rest.foldlM Options.addPath options with
    | none =>
      rw [hfold] at hrequest
      cases hrequest
    | some after =>
      obtain ⟨htraced, hkept⟩ := Options.foldlM_addPath_traced hfold
      rw [hfold] at hrequest
      rw [htraced, ← hkept]
      obtain ⟨givenPath, trace, givenJson⟩ := after
      cases hrequest
      exact ⟨rfl, rfl⟩
  | case3 options argument rest hdashes ih =>
    rw [commandRequest]
    cases heffect : argumentEffect true argument options with
    | none =>
      rw [heffect] at hrequest
      cases hrequest
    | some effect =>
      rw [heffect] at hrequest
      cases effect with
      | help => cases hrequest
      | options after =>
        obtain ⟨hafter, htrace⟩ := ih after hrequest
        obtain ⟨htraced, hoptions⟩ := argumentEffect_traced heffect htrace
        rw [htraced]
        exact ⟨hafter, hoptions⟩
    exact hdashes

theorem ofArguments_traced {arguments : List String} {path : Option String} {json : Bool}
    (hrequest : Request.ofArguments ("run" :: arguments) = some (.perform (.run path false json))) :
    Request.ofArguments ("run" :: "--trace" :: arguments) = some (.perform (.run path true json)) := by
  have hplain : commandRequest true Options.run {} arguments =
      some (.perform (.run path false json)) := hrequest
  change commandRequest true Options.run {} ("--trace" :: arguments) = _
  rw [commandRequest]
  · exact (commandRequest_traced hplain).1
  · intro hdashes
    exact absurd hdashes (by decide)

end FourReg
