import SdkAudit.Proofs.Pattern.Found

/-!
# Calls that patterns find as they are written

The patterns of Flutter and of Android with Kotlin take the names of a call letter by letter, then
white space and a bracket; that of Flutter's initializer takes the method alone, where a word
starts.  So they find every call that is written in this way, whatever stands around it.

* `Pattern.matchesHere_of_stepsAfter?`, `Pattern.matchesHere_of_takesBracket` — steps that take a
  word, and the steps at the end of a pattern for calls;
* `Pattern.foundFrom_append` — a pattern is found behind any text;
* `Pattern.foundIn_of_findsCalls` — **a pattern for calls finds the calls that are written so**;
* `Scan.findsCalls_of_catalogue` — the patterns of the catalogue are patterns for calls;
* `Scan.mem_foundMethods_of_written` — **a method is found where a call of it is written**.
-/

namespace SdkAudit

namespace Pattern

variable {steps more : List PatternStep} {before : Option Char} {word text blanks : List Char}

/-! ### Steps of a pattern for calls -/

/-- What is left of steps that take the characters of a word one by one, if they do. -/
def stepsAfter? : List Char → List PatternStep → Option (List PatternStep)
  | [], steps => some steps
  | c :: word, .take (.only d) .once :: steps => if c = d then stepsAfter? word steps else none
  | _ :: _, _ => none

/-- Whether the steps are those for white space and a bracket. -/
def takesBracket : List PatternStep → Bool
  | [.take .blank .anyNumber, .take (.only '(') .once] => true
  | _ => false

/-- Whether the steps are those for the calls of a member through a receiver: they take both names,
or the member alone where a word starts. -/
def findsCalls (receiver member : List Char) : List PatternStep → Bool
  | .boundary true :: steps =>
    member.head?.any Text.isWordChar && (stepsAfter? member steps).any takesBracket
  | steps => (stepsAfter? (receiver ++ '.' :: member) steps).any takesBracket

theorem matchesHere_of_stepsAfter? (h : stepsAfter? word steps = some more)
    (hmore : ∀ before, matchesHere more before text = true) :
    matchesHere steps before (word ++ text) = true := by
  induction word, steps using stepsAfter?.induct generalizing before with
  | case1 steps =>
    cases h
    exact hmore before
  | case2 c word steps ih =>
    rw [stepsAfter?, if_pos rfl] at h
    simpa [matchesHere, CharClass.has] using ih h
  | case3 c word d steps hne =>
    rw [stepsAfter?, if_neg hne] at h
    cases h
  | case4 c word steps hother =>
    rw [stepsAfter?.eq_3 _ _ _ hother] at h
    cases h

theorem matchesHere_of_takesBracket (h : takesBracket steps = true)
    (hblanks : ∀ c ∈ blanks, Text.isBlank c = true) :
    matchesHere steps before (blanks ++ '(' :: text) = true := by
  unfold takesBracket at h
  split at h
  case h_1 =>
    rw [matchesHere]
    induction blanks generalizing before with
    | nil => simp [afterRepeat, matchesHere, CharClass.has]
    | cons c blanks ih =>
      have hmore := @ih (some c) fun d hd => hblanks d (by simp [hd])
      simp [afterRepeat, CharClass.has, hblanks c (by simp), hmore]
  case h_2 => cases h

/-! ### Searching -/

/-- A pattern is found behind any text. -/
theorem foundFrom_append {p : Pattern} (hsteps : steps ∈ p.alternatives) (front : List Char)
    (h : matchesHere steps (front.getLast? <|> before) text = true) :
    p.foundFrom before (front ++ text) = true := by
  induction front generalizing before with
  | nil =>
    have hhere : p.alternatives.any (matchesHere · before text) = true :=
      List.any_eq_true.2 ⟨steps, hsteps, h⟩
    cases text with
    | nil => exact hhere
    | cons c text => exact Bool.or_eq_true_iff.2 (.inl hhere)
  | cons c front ih =>
    refine Bool.or_eq_true_iff.2 (.inr (ih ?_))
    rw [List.getLast?_cons] at h
    cases hlast : front.getLast? <;> simpa [hlast] using h

/-- **A pattern for calls finds the calls that are written so.** -/
theorem foundIn_of_findsCalls {p : Pattern} (hsteps : steps ∈ p.alternatives)
    {receiver member : List Char} (h : findsCalls receiver member steps = true)
    (hblanks : ∀ c ∈ blanks, Text.isBlank c = true) (front text : List Char) :
    p.foundIn (front ++ (receiver ++ '.' :: (member ++ (blanks ++ '(' :: text)))) = true := by
  unfold findsCalls at h
  split at h
  case h_1 steps' =>
    obtain ⟨hword, hafter⟩ := Bool.and_eq_true_iff.1 h
    obtain ⟨c, hc, hcword⟩ := (Option.any_eq_true _ _).1 hword
    obtain ⟨rest, rfl⟩ := List.head?_eq_some_iff.1 hc
    obtain ⟨more, hmore, hbracket⟩ := (Option.any_eq_true _ _).1 hafter
    have hpoint : Text.isWordChar '.' = false := by decide
    have hmember : matchesHere steps' (some '.') (c :: rest ++ (blanks ++ '(' :: text)) = true :=
      matchesHere_of_stepsAfter? hmore fun _ => matchesHere_of_takesBracket hbracket hblanks
    have hhere : matchesHere (.boundary true :: steps')
        ((front ++ receiver ++ ['.']).getLast? <|> none)
        (c :: rest ++ (blanks ++ '(' :: text)) = true := by
      rw [List.getLast?_concat, matchesHere]
      simpa [isWord, hpoint, hcword] using hmember
    simpa [foundIn] using foundFrom_append hsteps (front ++ receiver ++ ['.']) hhere
  case h_2 =>
    obtain ⟨more, hmore, hbracket⟩ := (Option.any_eq_true _ _).1 h
    have hhere : matchesHere steps (front.getLast? <|> none)
        (receiver ++ '.' :: member ++ (blanks ++ '(' :: text)) = true :=
      matchesHere_of_stepsAfter? hmore fun _ => matchesHere_of_takesBracket hbracket hblanks
    simpa [foundIn] using foundFrom_append hsteps front hhere

end Pattern

namespace Scan

/-- The patterns of the catalogue are patterns for calls. -/
theorem findsCalls_of_catalogue {technology : Technology}
    (h : technology = .flutter ∨ technology = .androidKotlin) :
    (Catalogue.ruleSet technology).methodPatterns.all (fun p =>
      (Pattern.read? p.pattern).any fun pattern => pattern.alternatives.any
        (Pattern.findsCalls (Catalogue.ruleSet technology).facade.toList p.method.toList))
      = true := by
  rcases h with rfl | rfl <;> decide +kernel

/-- **A method is found where a call of it is written.** -/
theorem mem_foundMethods_of_written {technology : Technology}
    (h : technology = .flutter ∨ technology = .androidKotlin) {method text : String}
    (hmethod : method ∈ (Catalogue.ruleSet technology).methodPatterns.map (·.method))
    {blanks : List Char} (hblanks : ∀ c ∈ blanks, Text.isBlank c = true)
    (hwritten : (Catalogue.ruleSet technology).facade.toList
      ++ '.' :: (method.toList ++ (blanks ++ ['('])) <:+: text.toList) :
    method ∈ foundMethods technology text := by
  obtain ⟨p, hp, rfl⟩ := List.mem_map.1 hmethod
  have hfinds := List.all_eq_true.1 (findsCalls_of_catalogue h) p hp
  obtain ⟨pattern, hread, hfinds⟩ := (Option.any_eq_true _ _).1 hfinds
  obtain ⟨steps, hsteps, hfinds⟩ := List.any_eq_true.1 hfinds
  obtain ⟨front, back, htext⟩ := hwritten
  have hfound : pattern.foundIn text.toList = true := by
    rw [← htext]
    simpa using Pattern.foundIn_of_findsCalls hsteps hfinds hblanks front back
  refine mem_foundMethods_iff.2 (List.mem_filterMap.2 ⟨p, hp, ?_⟩)
  simp only [hread, hfound, if_true]

end Scan

end SdkAudit
