import AnalyzerBench.Command.Arguments
import Mathlib.Data.List.TakeWhile

/-!
# Reading command lines

A flag is read by its long name (`read_flag`).  After an equals sign an option may have any value (`read_valued`), and
after two hyphens any argument is an operand (`read_operands`); so every request can be spelled out, whatever its
values look like.  Items are taken one after the other, and all of them have to be taken (`ask_cons_eq_request_iff`).
-/

namespace AnalyzerBench.Command.Rules

variable {r : Rules} {item : Argument}

private theorem toList_long (s : String) : ("--" ++ s).toList = '-' :: '-' :: s.toList := by simp

private theorem looksLikeOption_long (r : Rules) (s : String) : r.looksLikeOption ("--" ++ s) = true := by
  unfold looksLikeOption
  rw [toList_long]
  rfl

private theorem long_ne {s : String} (h : s ≠ "") : "--" ++ s ≠ "--" := by
  intro he
  have hchars := congrArg String.toList he
  rw [toList_long] at hchars
  exact h (by simpa using hchars)

private theorem ne_equals {name : String} (hname : '=' ∉ name.toList) : ∀ c ∈ name.toList, (c != '=') = true := by
  intro c hc
  rw [bne_iff_ne]
  rintro rfl
  exact hname hc

theorem read_operands (r : Rules) (rest : List String) :
    r.read ("--" :: rest) = rest.map fun text => some (.operand text) := by
  rw [read, if_pos rfl]

theorem read_flag (name : String) (hitem : r.longFlag? name = some item) (hne : name ≠ "")
    (hname : '=' ∉ name.toList) (hvalued : name ∉ r.valued) (rest : List String) :
    r.read (("--" ++ name) :: rest) = some item :: r.read rest := by
  have htake : name.toList.takeWhile (· != '=') = name.toList := List.takeWhile_eq_self_iff.2 (ne_equals hname)
  have hdrop : name.toList.dropWhile (· != '=') = [] := List.dropWhile_eq_nil_iff.2 (ne_equals hname)
  rw [read, if_neg (long_ne hne), if_neg (by simp [looksLikeOption_long]), toList_long]
  simp [htake, hdrop, hvalued, hitem]

theorem read_valued (name : String) (hvalued : name ∈ r.valued) (hname : '=' ∉ name.toList) (value : String)
    (rest : List String) :
    r.read (("--" ++ (name ++ "=" ++ value)) :: rest) = some (.option name value) :: r.read rest := by
  have hkeep := ne_equals hname
  have hne : name ++ "=" ++ value ≠ "" := by
    intro h
    have hchars := congrArg String.toList h
    simp at hchars
  rw [read, if_neg (long_ne hne), if_neg (by simp [looksLikeOption_long]), toList_long]
  simp [List.takeWhile_append_of_pos hkeep, List.dropWhile_append_of_pos hkeep, hvalued]

/-- The flag that every tool has. -/
theorem read_verbose (h : "verbose" ∉ r.valued) (rest : List String) :
    r.read ("--verbose" :: rest) = some (.flag "verbose") :: r.read rest :=
  read_flag "verbose" (by simp [longFlag?]) (by decide) (by decide) h rest

/-- A marker and a file, whatever they look like. -/
theorem read_marker (h : "marker" ∈ r.valued) (token file : String) :
    r.read ["--marker=" ++ token, "--", file] = [some (.option "marker" token), some (.operand file)] := by
  have hread := read_valued "marker" h (by decide) token ["--", file]
  rw [read_operands, ← String.append_assoc, ← String.append_assoc] at hread
  exact hread

end AnalyzerBench.Command.Rules

namespace AnalyzerBench.Command

variable {σ α : Type} {step : σ → Argument → Option σ} {finish : σ → Option α} {s s' : σ} {a : α}
  {items : List (Option Argument)}

theorem ask_nil_eq_request_iff : ask step finish s [] = .request a ↔ finish s = some a := by
  rw [ask]
  cases finish s <;> simp

/-- A command line asks for something only if its first item is taken and the others go on to ask for it. -/
theorem ask_cons_eq_request_iff {item? : Option Argument} :
    ask step finish s (item? :: items) = .request a ↔
      ∃ item s', item? = some item ∧ item ≠ .help ∧ item ≠ .version ∧ step s item = some s' ∧
        ask step finish s' items = .request a := by
  rcases item? with _ | item
  · simp [ask]
  · cases item with
    | help => simp [ask]
    | version => simp [ask]
    | flag name => cases hstep : step s (.flag name) <;> simp [ask, hstep]
    | option name value => cases hstep : step s (.option name value) <;> simp [ask, hstep]
    | operand text => cases hstep : step s (.operand text) <;> simp [ask, hstep]

end AnalyzerBench.Command
