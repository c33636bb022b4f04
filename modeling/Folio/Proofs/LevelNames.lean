-- SUMMARY: A level that is given as a number or by name is what it is meant to be, unless its name is known for something that is no level.
import Folio.Proofs.LoggerHistory

/-!
# Levels by name

A level is meant to be a number, however it was given: a name stands for the number of
that level, and a name of no level for the level of information (`Level.Means`).

The lookup keeps to this but for two names. They are names of no level, so the level of
information is meant; but they are known, as a line template and as the table of styles, and
that is what they resolve to (`Level.resolve_of_namesNoLevel`). Such an answer is no number.
Resolved once more it gives another answer, and a logger cannot be given it as a level.
`Level.resolve_eq_severity_iff_means` says that nothing else goes wrong, and
`Level.resolve_basic_format` has one of the two names where all of it does.
-/

namespace Folio.Journal

namespace Level

/-! ## What is meant -/

/-- A number or a truth value is meant as itself; a text, in whatever case, as the number of the
    level it names, and as the level of information if it names none. -/
inductive Means : Value → Severity → Prop
  | number (n : Int) : Means (.int n) (.number n)
  | flag (b : Bool) : Means (.bool b) (.flag b)
  | level {s : String} {n : Int} : (Text.upper s, n) ∈ named → Means (.text s) (.number n)
  | noLevel {s : String} : (∀ n, (Text.upper s, n) ∉ named) → Means (.text s) (.number information)

/-- In upper case the text is one of the names that are known and yet are of no level. -/
def NamesNoLevel : Value → Prop
  | .text s => Text.upper s = "BASIC_FORMAT" ∨ Text.upper s = "_STYLES"
  | _ => False

/-- The names of levels and the other two are different names, and each level has one number. -/
theorem ofName_of_mem {name : String} {n : Int} (h : (name, n) ∈ named) :
    ofName name = .severity (.number n) := by
  have hnamed : ∀ entry ∈ named, ofName entry.1 = .severity (.number entry.2) := by decide
  exact hnamed _ h

theorem ofName_of_not_mem {name : String} (hformat : name ≠ "BASIC_FORMAT")
    (hstyles : name ≠ "_STYLES") (h : ∀ n, (name, n) ∉ named) :
    ofName name = .severity (.number information) := by
  have hlookup : named.lookup name = none := by
    rw [List.lookup_eq_none_iff]
    rintro ⟨other, n⟩ hmem
    rw [bne_iff_ne]
    rintro rfl
    exact h n hmem
  simp [ofName, hformat, hstyles, hlookup]

theorem exists_means {given : Value}
    (h : (∃ n, given = .int n) ∨ (∃ b, given = .bool b) ∨ ∃ s, given = .text s) :
    ∃ severity, Means given severity := by
  obtain ⟨n, rfl⟩ | ⟨b, rfl⟩ | ⟨s, rfl⟩ := h
  · exact ⟨_, .number n⟩
  · exact ⟨_, .flag b⟩
  · by_cases hlevel : ∃ n, (Text.upper s, n) ∈ named
    · obtain ⟨n, hmem⟩ := hlevel
      exact ⟨_, .level hmem⟩
    · exact ⟨_, .noLevel (not_exists.mp hlevel)⟩

theorem means_unique {given : Value} {a b : Severity} (ha : Means given a) (hb : Means given b) :
    a = b := by
  cases ha with
  | number n => cases hb; rfl
  | flag b => cases hb; rfl
  | level hmem =>
    cases hb with
    | level hmem' => simpa [ofName_of_mem hmem] using ofName_of_mem hmem'
    | noLevel hnone => exact absurd hmem (hnone _)
  | noLevel hnone =>
    cases hb with
    | level hmem => exact absurd hmem (hnone _)
    | noLevel _ => rfl

/-! ## What a level resolves to -/

theorem resolve_of_means {given : Value} {severity : Severity} (h : Means given severity)
    (hlevel : ¬ NamesNoLevel given) : resolve given = .severity severity := by
  cases h with
  | number n => rfl
  | flag b => rfl
  | level hmem => exact ofName_of_mem hmem
  | noLevel hnone =>
    obtain ⟨hformat, hstyles⟩ := not_or.mp hlevel
    exact ofName_of_not_mem hformat hstyles hnone

theorem resolve_of_namesNoLevel {given : Value} (h : NamesNoLevel given) :
    resolve given = .template basicFormat ∨ resolve given = .styles := by
  cases given with
  | text s =>
    obtain hname | hname := h
    · left
      exact congrArg ofName hname
    · right
      exact congrArg ofName hname
  | _ => exact h.elim

theorem resolve_ne_severity_of_namesNoLevel {given : Value} (h : NamesNoLevel given)
    (severity : Severity) : resolve given ≠ .severity severity := by
  obtain htemplate | hstyles := resolve_of_namesNoLevel h
  · simp [htemplate]
  · simp [hstyles]

theorem resolve_severity_toValue (severity : Severity) :
    resolve severity.toValue = .severity severity := by
  cases severity with
  | number n => rfl
  | flag b => rfl

/-- Neither the template nor the table is resolved to itself: as texts they name nothing. -/
theorem resolve_toValue_ne_of_namesNoLevel {given : Value} (h : NamesNoLevel given) :
    resolve (resolve given).toValue ≠ resolve given := by
  obtain hresolve | hresolve := resolve_of_namesNoLevel h
  · rw [hresolve]
    decide
  · rw [hresolve]
    decide

end Level

/-! ## Configuring with a level -/

section

variable (time : String) (configuration : Configuration) (journal : Journal)

theorem configure_of_severity {severity : Severity}
    (hlevel : Level.resolve configuration.level = .severity severity) :
    ∃ next, (configure time configuration).runOn journal = (.ok configuration.logger, next) := by
  have houtcome := configure_outcome time configuration journal
  generalize (configure time configuration).runOn journal = outcome at houtcome
  cases houtcome with
  | done _ _ _ => exact ⟨_, rfl⟩
  | refused hrefusal =>
    rw [hlevel] at hrefusal
    cases hrefusal

theorem configure_of_namesNoLevel (h : Level.NamesNoLevel configuration.level) :
    ∃ e, (configure time configuration).runOn journal = (.error e, journal) := by
  obtain hlevel | hlevel := Level.resolve_of_namesNoLevel h
  · exact ⟨_, configure_of_template time journal hlevel⟩
  · exact ⟨_, configure_of_styles time journal hlevel⟩

end

namespace Level

/-- For every number, truth value or text there is exactly one number that is meant by it as a level,
    and it is resolved to this number and to nothing else that is one, except by the two names of no
    level, which are not resolved to a number at all. These two are also the only ones that are
    resolved to something else when they are resolved again, and the only ones with which a logger
    cannot be configured; the attempt leaves the journal as it was. -/
theorem resolve_eq_severity_iff_means (given : Value)
    (hgiven : (∃ n, given = .int n) ∨ (∃ b, given = .bool b) ∨ ∃ s, given = .text s) :
    (∃ severity, Means given severity ∧ ∀ other, Means given other → other = severity) ∧
    (∀ severity, resolve given = .severity severity ↔
      Means given severity ∧ ¬ NamesNoLevel given) ∧
    (resolve (resolve given).toValue = resolve given ↔ ¬ NamesNoLevel given) ∧
    ∀ (time : String) (configuration : Configuration) (journal : Journal),
      configuration.level = given →
      (¬ NamesNoLevel given →
        ∃ next, (configure time configuration).runOn journal = (.ok configuration.logger, next)) ∧
      (NamesNoLevel given →
        ∃ e, (configure time configuration).runOn journal = (.error e, journal)) := by
  obtain ⟨severity, hmeans⟩ := exists_means hgiven
  refine ⟨⟨severity, hmeans, fun other hother => means_unique hother hmeans⟩, ?resolved, ?again,
    ?configured⟩
  case resolved =>
    intro other
    constructor
    · intro hresolve
      have hlevel : ¬ NamesNoLevel given :=
        fun h => resolve_ne_severity_of_namesNoLevel h other hresolve
      rw [resolve_of_means hmeans hlevel] at hresolve
      cases hresolve
      exact ⟨hmeans, hlevel⟩
    · rintro ⟨hother, hlevel⟩
      exact resolve_of_means hother hlevel
  case again =>
    constructor
    · intro hagain h
      exact resolve_toValue_ne_of_namesNoLevel h hagain
    · intro hlevel
      rw [resolve_of_means hmeans hlevel]
      exact resolve_severity_toValue severity
  case configured =>
    rintro time configuration journal rfl
    refine ⟨?_, configure_of_namesNoLevel time configuration journal⟩
    intro hlevel
    exact configure_of_severity time configuration journal (resolve_of_means hmeans hlevel)

/-- A name in mixed case, with a letter whose upper-case form is an ordinary letter. -/
theorem resolve_eq_severity_notset :
    (∃ s, Value.text "Notſet" = .text s) ∧ ¬ NamesNoLevel (.text "Notſet") ∧
      resolve (.text "Notſet") = .severity (.number 0) ∧
      ∃ next, (configure "" { level := .text "Notſet" }).runOn initial = (.ok defaultLogger, next) := by
  obtain ⟨-, hresolve, -, hconfigure⟩ :=
    resolve_eq_severity_iff_means (.text "Notſet") (.inr (.inr ⟨_, rfl⟩))
  have hmem : (Text.upper "Notſet", 0) ∈ named := by decide
  have hlevel : ¬ NamesNoLevel (.text "Notſet") := by
    unfold NamesNoLevel
    decide
  exact ⟨⟨_, rfl⟩, hlevel, (hresolve _).mpr ⟨.level hmem, hlevel⟩,
    (hconfigure "" { level := .text "Notſet" } initial rfl).1 hlevel⟩

/-- The level of information is meant by the name of the line template, but the name is resolved to
    the template, which is no number, names nothing itself and is refused as a level. -/
theorem resolve_basic_format :
    Means (.text "basic_format") (.number 20) ∧
      resolve (.text "basic_format") = .template "%(levelname)s:%(name)s:%(message)s" ∧
      (¬ ∃ severity, resolve (.text "basic_format") = .severity severity) ∧
      resolve (resolve (.text "basic_format")).toValue ≠ resolve (.text "basic_format") ∧
      (configure "" { level := .text "basic_format" }).runOn initial =
        (.error (.unknownLevel "%(levelname)s:%(name)s:%(message)s"), initial) := by
  have hresolve : resolve (.text "basic_format") = .template basicFormat := by decide
  have hlevel : NamesNoLevel (.text "basic_format") := by
    unfold NamesNoLevel
    decide
  have hnone : ∀ n, (Text.upper "basic_format", n) ∉ named := by
    intro n hmem
    exact resolve_ne_severity_of_namesNoLevel hlevel (.number n) (ofName_of_mem hmem)
  refine ⟨.noLevel hnone, hresolve, ?_, resolve_toValue_ne_of_namesNoLevel hlevel,
    configure_of_template "" initial hresolve⟩
  rintro ⟨severity, hseverity⟩
  exact resolve_ne_severity_of_namesNoLevel hlevel severity hseverity

end Level

end Folio.Journal
