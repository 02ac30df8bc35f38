import TableSchema.Proofs.Text.Recasing
import TableSchema.Proofs.Text.Trimming
import TableSchema.Settings

/-!
Settings read from the environment. Of a variable only what stands between its outer blanks counts,
and no case is told where a word or a level is read. What has been read is clean, and is read as
itself when the variables are set to it.
-/

namespace TableSchema

open Text (strip lower upper upperChars lowerChars stripChars IsBlankText Recased)

/-- A variable is set otherwise without a difference: blanks are put around its value, a blank value
is taken away or, where the value is a word in any case, the case of ASCII letters is changed. -/
inductive Restated (isWord : Bool) : Option String → Option String → Prop
  | same (raw : Option String) : Restated isWord raw raw
  | padded {before after : String} (s : String) (front : IsBlankText before.toList)
      (back : IsBlankText after.toList) : Restated isWord (some s) (some (before ++ s ++ after))
  | blank {s : String} (blank : IsBlankText s.toList) : Restated isWord (some s) none
  | recased {s t : String} (word : isWord = true) (letters : Recased s.toList t.toList) :
      Restated isWord (some s) (some t)

structure Environment.Restates (env env' : Environment) : Prop where
  defaultSqlType : Restated false env.defaultSqlType env'.defaultSqlType
  strict : Restated true env.strict env'.strict
  metrics : Restated true env.metrics env'.metrics
  logLevel : Restated true env.logLevel env'.logLevel

/-- The variable is set to one of the words, with blanks around it and its letters in any case. -/
def Names (words : List String) (raw : Option String) : Prop :=
  ∃ s, raw = some s ∧ ∃ word ∈ words, Recased word.toList (strip s).toList

/-- Something, and no blank at either end of it. -/
def IsClean (s : String) : Prop :=
  s ≠ "" ∧ strip s = s

instance (s : String) : Decidable (IsClean s) :=
  inferInstanceAs (Decidable (_ ∧ _))

def Environment.ofSettings (s : Settings) : Environment where
  defaultSqlType := some s.defaultSqlType
  strict := some (if s.strictValidation then "true" else "false")
  metrics := some (if s.metricsEnabled then "true" else "false")
  logLevel := s.logLevel.text?

section Content

variable {isWord : Bool} {raw raw' : Option String}

def content (raw : Option String) : String :=
  strip (raw.getD "")

theorem strip_eq_empty_iff (s : String) : strip s = "" ↔ IsBlankText s.toList := by
  rw [← String.toList_inj, Text.toList_strip]
  exact Text.stripChars_eq_nil_iff s.toList

theorem Restated.recased_content (h : Restated isWord raw raw') :
    Recased (content raw).toList (content raw').toList := by
  cases h with
  | same => rfl
  | padded s front back =>
    rw [content, content, Option.getD_some, Option.getD_some, Text.strip_padded front back]
    rfl
  | blank blank =>
    rw [content, Option.getD_some, (strip_eq_empty_iff _).2 blank]
    rfl
  | recased _ letters =>
    simp only [content, Option.getD_some, Text.toList_strip]
    exact letters.stripChars

theorem Restated.content_eq (h : Restated false raw raw') : content raw' = content raw := by
  cases h with
  | same => rfl
  | padded s front back => exact Text.strip_padded front back s
  | blank blank => exact ((strip_eq_empty_iff _).2 blank).symm
  | recased word _ => exact absurd word (by decide)

end Content

namespace Settings

section Flag

def isPlainLetter (c : Char) : Bool :=
  c.toNat < 128 && c != 'i' && c != 'k'

theorem isPlainLetter_iff (c : Char) :
    isPlainLetter c = true ↔ c.toNat < 128 ∧ c ≠ 'i' ∧ c ≠ 'k' := by
  simp [isPlainLetter, and_assoc]

theorem recased_of_lowerFrom {inWord : Bool} {word cs : List Char}
    (plain : ∀ c ∈ word, isPlainLetter c = true) (h : Text.lowerFrom inWord cs = word) :
    Recased word cs := by
  induction cs generalizing inWord word with
  | nil =>
    obtain rfl : word = [] := h.symm
    rfl
  | cons a cs ih =>
    rw [Text.lowerFrom] at h
    split at h
    next sigma =>
      have ascii (c : Char) (mem : c ∈ word) : c.toNat < 128 :=
        ((isPlainLetter_iff c).1 (plain c mem)).1
      split at h
      all_goals
        subst h
        exact absurd (ascii _ List.mem_cons_self) (by decide)
    next =>
      obtain ⟨x, image, chars⟩ := List.exists_cons_of_ne_nil (Text.lowerChar_ne_nil a)
      have mem : x ∈ Text.lowerChar a := chars ▸ List.mem_cons_self
      have listed : x ∈ word := h ▸ List.mem_append_left _ mem
      obtain ⟨ascii, noI, noK⟩ := (isPlainLetter_iff x).1 (plain x listed)
      rcases Text.eq_of_mem_lowerChar mem ascii with ⟨letter, rfl⟩ | ⟨-, rfl⟩ | ⟨-, rfl⟩
      · rw [Text.lowerChar_of_ascii letter, List.singleton_append] at h
        subst h
        have others := ih (fun c hc => plain c (List.mem_cons_of_mem _ hc)) rfl
        have upper : a.toLower.toUpper = a.toUpper := by
          refine Text.forall_ascii (p := fun a => a.toLower.toUpper = a.toUpper) ?_ a letter
          decide +kernel
        rw [Recased, List.map_cons, List.map_cons, upper, others]
      · exact absurd rfl noI
      · exact absurd rfl noK

def IsWordList (words : List String) : Prop :=
  "" ∉ words ∧ ∀ word ∈ words, lower word = word ∧ word.toList.all isPlainLetter = true

instance (words : List String) : Decidable (IsWordList words) :=
  inferInstanceAs (Decidable (_ ∧ _))

theorem isWordList_trueWords : IsWordList trueWords := by decide +kernel

theorem isWordList_falseWords : IsWordList falseWords := by decide +kernel

variable {words : List String}

theorem lower_mem_iff (list : IsWordList words) (s : String) :
    lower s ∈ words ↔ ∃ word ∈ words, Recased word.toList s.toList := by
  constructor
  · intro mem
    have plain := List.all_eq_true.1 (list.2 _ mem).2
    rw [Text.toList_lower] at plain
    exact ⟨lower s, mem, by rw [Text.toList_lower]; exact recased_of_lowerFrom plain rfl⟩
  · rintro ⟨word, mem, letters⟩
    have same : lower s = lower word := by
      rw [← String.toList_inj, Text.toList_lower, Text.toList_lower, letters.lowerChars_eq]
    rwa [same, (list.2 word mem).1]

theorem names_iff (list : IsWordList words) (raw : Option String) :
    Names words raw ↔ lower (content raw) ∈ words := by
  cases raw with
  | none =>
    have nothing : lower (content none) = "" := by decide +kernel
    rw [nothing]
    exact iff_of_false (fun ⟨_, set, _⟩ => Option.some_ne_none _ set.symm) list.1
  | some s =>
    rw [lower_mem_iff list, Names]
    simp [content]

theorem readFlag_eq (raw : Option String) (default : Bool) :
    readFlag raw default =
      if trueWords.contains (lower (content raw)) then true
      else if falseWords.contains (lower (content raw)) then false
      else default := by
  cases raw with
  | none =>
    have neither : trueWords.contains (lower (content none)) = false ∧
        falseWords.contains (lower (content none)) = false := by
      decide +kernel
    rw [neither.1, neither.2]
    rfl
  | some s => rfl

theorem readFlag_restated {raw raw' : Option String} (h : Restated true raw raw')
    (default : Bool) : readFlag raw' default = readFlag raw default := by
  have same : lower (content raw') = lower (content raw) := by
    rw [← String.toList_inj, Text.toList_lower, Text.toList_lower, h.recased_content.lowerChars_eq]
  rw [readFlag_eq, readFlag_eq, same]

theorem readFlag_false_ne_iff (raw : Option String) :
    readFlag raw false ≠ false ↔ Names trueWords raw := by
  rw [names_iff isWordList_trueWords, readFlag_eq, ← List.contains_iff_mem]
  cases trueWords.contains (lower (content raw)) <;> simp

theorem readFlag_true_ne_iff (raw : Option String) :
    readFlag raw true ≠ true ↔ Names falseWords raw := by
  have apart : ∀ word ∈ falseWords, word ∉ trueWords := by decide
  rw [names_iff isWordList_falseWords, readFlag_eq]
  by_cases off : lower (content raw) ∈ falseWords
  · have on : trueWords.contains (lower (content raw)) = false :=
      Bool.eq_false_iff.2 (mt List.contains_iff_mem.1 (apart _ off))
    rw [on, List.contains_iff_mem.2 off]
    simp [off]
  · have none : falseWords.contains (lower (content raw)) = false :=
      Bool.eq_false_iff.2 (mt List.contains_iff_mem.1 off)
    rw [none]
    simp [off]

theorem readFlag_written (value default : Bool) :
    readFlag (some (if value then "true" else "false")) default = value := by
  cases value <;> cases default <;> decide +kernel

end Flag

section Whole

variable {s default : String}

theorem isClean_orDefault (clean : IsClean default) (trimmed : strip s = s) :
    IsClean (orDefault s default) := by
  unfold orDefault
  split
  next => exact clean
  next nonempty => exact ⟨nonempty, trimmed⟩

theorem orDefault_of_isClean (clean : IsClean s) : orDefault s default = s :=
  if_neg clean.1

theorem content_of_isClean (clean : IsClean s) : content (some s) = s :=
  clean.2

theorem isClean_typeText (env : Environment) :
    IsClean (orDefault (content env.defaultSqlType) "text") :=
  isClean_orDefault (by decide) (Text.strip_strip _)

def levelText (env : Environment) : String :=
  orDefault (upper (content env.logLevel)) defaultLogLevel

theorem upper_levelText (env : Environment) : upper (levelText env) = levelText env := by
  unfold levelText orDefault
  split
  next => decide +kernel
  next => exact Text.upper_upper _

theorem isClean_levelText (env : Environment) : IsClean (levelText env) := by
  refine isClean_orDefault (by decide) ?_
  rw [Text.strip_upper, content, Text.strip_strip]

theorem ofEnvironment_eq (env : Environment) :
    ofEnvironment env =
      { defaultSqlType := orDefault (content env.defaultSqlType) "text"
        strictValidation := readFlag env.strict false
        metricsEnabled := readFlag env.metrics true
        logLevel := .text (levelText env) } := by
  have level : orDefault (upper (strip (env.logLevel.getD defaultLogLevel))) defaultLogLevel =
      levelText env := by
    unfold levelText
    cases env.logLevel with
    | none => decide +kernel
    | some s => rfl
  rw [ofEnvironment, level]
  rfl

theorem ofEnvironment_restates {env env' : Environment} (h : env.Restates env') :
    ofEnvironment env' = ofEnvironment env := by
  have level : upper (content env'.logLevel) = upper (content env.logLevel) := by
    rw [← String.toList_inj, Text.toList_upper, Text.toList_upper,
      h.logLevel.recased_content.upperChars_eq]
  rw [ofEnvironment_eq, ofEnvironment_eq, h.defaultSqlType.content_eq, readFlag_restated h.strict,
    readFlag_restated h.metrics, levelText, levelText, level]

theorem ofEnvironment_ofSettings (env : Environment) :
    ofEnvironment (.ofSettings (ofEnvironment env)) = ofEnvironment env := by
  have type := isClean_typeText env
  have level : levelText (.ofSettings (ofEnvironment env)) = levelText env := by
    have clean := isClean_levelText env
    rw [levelText, Environment.ofSettings, ofEnvironment_eq env]
    simp only [Value.text?, content_of_isClean clean, upper_levelText, orDefault_of_isClean clean]
  rw [ofEnvironment_eq (.ofSettings _), level, Environment.ofSettings, ofEnvironment_eq env]
  simp only [content_of_isClean type, orDefault_of_isClean type, readFlag_written]

/-- Settings do not depend on the blanks, blank values and cases in which the environment states
them. A flag leaves its default for a word that says so alone, the type and the level are clean, and
what has been read is read again from the variables that say it. -/
theorem ofEnvironment_settles (env : Environment) :
    (∀ env', env.Restates env' → ofEnvironment env' = ofEnvironment env) ∧
    ((ofEnvironment env).strictValidation ≠ ({} : Settings).strictValidation ↔
      Names trueWords env.strict) ∧
    ((ofEnvironment env).metricsEnabled ≠ ({} : Settings).metricsEnabled ↔
      Names falseWords env.metrics) ∧
    IsClean (ofEnvironment env).defaultSqlType ∧
    (∃ level, (ofEnvironment env).logLevel = .text level ∧ IsClean level) ∧
    ofEnvironment (.ofSettings (ofEnvironment env)) = ofEnvironment env := by
  refine ⟨fun _ => ofEnvironment_restates, readFlag_false_ne_iff env.strict,
    readFlag_true_ne_iff env.metrics, ?_, ?_, ofEnvironment_ofSettings env⟩
  · simp only [ofEnvironment_eq, isClean_typeText]
  · simp only [ofEnvironment_eq, Value.text.injEq, exists_eq_left', isClean_levelText]

example : ofEnvironment ⟨some "\u2003", some " yEs\n", some "of", some "\u00A0warnıng\u0085"⟩ =
    { strictValidation := true, logLevel := .text "WARNING" } := by
  decide +kernel

end Whole

end Settings

end TableSchema
