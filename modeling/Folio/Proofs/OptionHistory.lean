-- SUMMARY: What updates of options take and refuse, and which call the flags of the current options come from.
import Folio.Failure
import Folio.Options.Update
import Folio.Proofs.LatestCall

/-!
# The history of options

An update names some flags and gives a value for each. It is taken exactly if every name
is that of a flag and every value is a truth value (`Acceptable`); then the named flags
have the given values and the others stay (`Revises`). Otherwise it is refused for the
fault that counts first (`Refused`), and the options that were current stay so.

So a flag of the current options has the value that the last call taken gave for it,
the first call being the one that built the options, or the default value if none of
the calls taken named it (`LastGiven`).

Arguments are read as what they give for each name; for arguments that repeat a name the
first one counts.
-/

namespace Folio.Options

/-! ## Flags -/

inductive Flag where
  | strict | checkHeadingLevels
  deriving DecidableEq

/-- The name under which a flag is given. -/
def Flag.name : Flag → String
  | strict => "strict"
  | checkHeadingLevels => "check_heading_levels"

def flag (options : Options) : Flag → Bool
  | .strict => options.strict
  | .checkHeadingLevels => options.checkHeadingLevels

/-! ## What becomes of a call -/

/-- Every name is that of a flag. -/
def NamesFlags (fields : Arguments) : Prop :=
  ∀ name value, fields.lookup name = some value → ∃ flag, name = Flag.name flag

/-- The flag is given the value, which is no truth value. -/
def Mistypes (fields : Arguments) (flag : Flag) (value : Value) : Prop :=
  fields.lookup flag.name = some value ∧ ∀ b, value ≠ .bool b

/-- Every name is that of a flag, and every value is a truth value. -/
def Acceptable (fields : Arguments) : Prop :=
  ∀ name value, fields.lookup name = some value →
    (∃ flag, name = Flag.name flag) ∧ ∃ b, value = .bool b

/-- The named flags have the given values, and the others are as they were. -/
structure Revises (options : Options) (fields : Arguments) (next : Options) : Prop where
  named : ∀ flag value, fields.lookup (Flag.name flag) = some value → value = .bool (next.flag flag)
  others : ∀ flag, fields.lookup (Flag.name flag) = none → next.flag flag = options.flag flag

/-- The error of a call that is refused: one about the call if it gives a name that is not that of a
    flag, whatever the values; otherwise one about the value of a flag, the strict flag if its
    value is no truth value and else the other one. -/
inductive Refused (fields : Arguments) (e : Error) : Prop
  | misnamed {name : String} {value : Value} :
      fields.lookup name = some value → (∀ flag, name ≠ Flag.name flag) →
      e.className = "TypeError" → Refused fields e
  | mistyped {flag : Flag} {value : Value} :
      NamesFlags fields → Mistypes fields flag value →
      (flag = .strict ∨ ∀ other, ¬ Mistypes fields .strict other) →
      e.className = "ValidationError" → e.parameter? = some (flag.name, value) → Refused fields e

variable {options next : Options} {fields : Arguments}

theorem Refused.not_acceptable {e : Error} (h : Refused fields e) : ¬ Acceptable fields := by
  intro hfields
  cases h with
  | misnamed hgiven hnone _ =>
    obtain ⟨⟨flag, hname⟩, -⟩ := hfields _ _ hgiven
    exact hnone flag hname
  | mistyped _ hvalue _ _ _ =>
    obtain ⟨-, b, hb⟩ := hfields _ _ hvalue.1
    exact hvalue.2 b hb

/-- The two ways in which a call on the options at hand can end. -/
inductive Outcome (options : Options) (fields : Arguments) : Except Error Options → Prop
  | taken {next : Options} :
      Acceptable fields → Revises options fields next → Outcome options fields (.ok next)
  | refused {e : Error} : Refused fields e → Outcome options fields (.error e)

/-! ## Names and values -/

theorem knows_iff {name : String} : signature.knows name = true ↔ ∃ flag, name = Flag.name flag := by
  have hlisted : signature.knows name = true ↔ name = "strict" ∨ name = "check_heading_levels" := by
    simp [Signature.knows, signature]
  rw [hlisted]
  constructor
  · rintro (rfl | rfl)
    · exact ⟨.strict, rfl⟩
    · exact ⟨.checkHeadingLevels, rfl⟩
  · rintro ⟨flag, rfl⟩
    cases flag with
    | strict => exact .inl rfl
    | checkHeadingLevels => exact .inr rfl

theorem receiver_ne_name (flag : Flag) : receiver ≠ flag.name := by
  cases flag <;> decide

theorem check_cases (fields : Arguments) :
    (signature.check fields = .ok () ∧ NamesFlags fields) ∨
      ∃ e, signature.check fields = .error e ∧ Refused fields e := by
  unfold Signature.check
  cases hfind : fields.find? fun argument => !signature.knows argument.1 with
  | none =>
    refine .inl ⟨rfl, ?_⟩
    intro name value hgiven
    obtain ⟨before, after, hfields, -⟩ := List.lookup_eq_some_iff.mp hgiven
    have hknown := List.find?_eq_none.mp hfind (name, value) (by simp [hfields])
    exact knows_iff.mp (by simpa using hknown)
  | some argument =>
    obtain ⟨name, value⟩ := argument
    have hunknown : ∀ flag, name ≠ Flag.name flag := by
      intro flag hflag
      have hknown := List.find?_some hfind
      rw [knows_iff.mpr ⟨flag, hflag⟩] at hknown
      cases hknown
    have hgiven : (fields.lookup name).isSome = true :=
      List.lookup_isSome_iff.mpr ⟨_, List.mem_of_find?_eq_some hfind, beq_self_eq_true name⟩
    obtain ⟨first, hfirst⟩ := Option.isSome_iff_exists.mp hgiven
    by_cases hself : name = receiver
    · exact .inr ⟨_, if_pos hself, .misnamed hfirst hunknown rfl⟩
    · exact .inr ⟨_, if_neg hself, .misnamed hfirst hunknown rfl⟩

/-- What a call reads for a flag: the value that it is given, or the one that it has. -/
def reading (options : Options) (fields : Arguments) (flag : Flag) : Except Error Bool :=
  readFlag flag.name ((fields.lookup flag.name).getD (.bool (options.flag flag)))

theorem revise_eq (options : Options) (fields : Arguments) :
    options.revise fields = do
      signature.check fields
      let strict ← options.reading fields .strict
      let checkHeadingLevels ← options.reading fields .checkHeadingLevels
      return { strict, checkHeadingLevels } := rfl

theorem reading_cases (options : Options) (fields : Arguments) (flag : Flag) :
    (∃ b, options.reading fields flag = .ok b ∧
        (∀ value, fields.lookup flag.name = some value → value = .bool b) ∧
        (fields.lookup flag.name = none → b = options.flag flag)) ∨
      ∃ value, options.reading fields flag = .error (.flagRefused flag.name value) ∧
        Mistypes fields flag value := by
  unfold reading Mistypes
  cases fields.lookup flag.name with
  | none => exact .inl ⟨options.flag flag, rfl, by simp⟩
  | some value =>
    cases value with
    | bool b => exact .inl ⟨b, rfl, by simp⟩
    | _ => exact .inr ⟨_, rfl, rfl, by simp⟩

theorem not_mistypes {flag : Flag} {b : Bool}
    (h : ∀ value, fields.lookup flag.name = some value → value = .bool b) (value : Value) :
    ¬ Mistypes fields flag value := by
  rintro ⟨hgiven, hnone⟩
  exact hnone b (h value hgiven)

/-! ## Calls -/

/-- The steps of a call in their order: the names, the strict flag, the other flag. -/
theorem revise_outcome (options : Options) (fields : Arguments) :
    Outcome options fields (options.revise fields) := by
  rw [revise_eq]
  obtain ⟨hcheck, hnames⟩ | ⟨e, hcheck, hrefused⟩ := check_cases fields
  case inr =>
    rw [hcheck]
    exact .refused hrefused
  obtain ⟨strict, hstrict, hgiven, hkept⟩ | ⟨value, hstrict, hvalue⟩ :=
    reading_cases options fields .strict
  case inr =>
    rw [hcheck, hstrict]
    exact .refused (.mistyped hnames hvalue (.inl rfl) rfl rfl)
  obtain ⟨levels, hlevels, hgiven', hkept'⟩ | ⟨value, hlevels, hvalue⟩ :=
    reading_cases options fields .checkHeadingLevels
  case inr =>
    rw [hcheck, hstrict, hlevels]
    exact .refused (.mistyped hnames hvalue (.inr (not_mistypes hgiven)) rfl rfl)
  rw [hcheck, hstrict, hlevels]
  refine .taken ?acceptable ⟨?named, ?others⟩
  case acceptable =>
    intro name value hvalue
    obtain ⟨flag, rfl⟩ := hnames name value hvalue
    cases flag with
    | strict => exact ⟨⟨_, rfl⟩, strict, hgiven value hvalue⟩
    | checkHeadingLevels => exact ⟨⟨_, rfl⟩, levels, hgiven' value hvalue⟩
  case named =>
    intro flag
    cases flag with
    | strict => exact hgiven
    | checkHeadingLevels => exact hgiven'
  case others =>
    intro flag
    cases flag with
    | strict => exact hkept
    | checkHeadingLevels => exact hkept'

theorem update_outcome (options : Options) (fields : Arguments) :
    Outcome options fields (options.update fields) := by
  unfold update
  cases hself : fields.lookup receiver with
  | none => exact revise_outcome options fields
  | some value =>
    exact .refused (.misnamed hself receiver_ne_name rfl)

theorem Outcome.ok_iff {answer : Except Error Options} (h : Outcome options fields answer) :
    (∃ next, answer = .ok next) ↔ Acceptable fields := by
  cases h with
  | taken hfields _ => exact ⟨fun _ => hfields, fun _ => ⟨_, rfl⟩⟩
  | refused hrefused =>
    refine ⟨?_, fun hfields => absurd hfields hrefused.not_acceptable⟩
    rintro ⟨next, hnext⟩
    cases hnext

theorem Outcome.revises (h : Outcome options fields (.ok next)) : Revises options fields next := by
  cases h with
  | taken _ hrevises => exact hrevises

theorem Outcome.refused_of_error {e : Error} (h : Outcome options fields (.error e)) :
    Refused fields e := by
  cases h with
  | refused hrefused => exact hrefused

theorem kept_cases (options : Options) (fields : Arguments) :
    (∃ next, options.update fields = .ok next ∧ options.kept fields = next ∧
        Acceptable fields ∧ Revises options fields next) ∨
      ∃ e, options.update fields = .error e ∧ options.kept fields = options ∧
        Refused fields e := by
  unfold kept
  have houtcome := update_outcome options fields
  cases hanswer : options.update fields with
  | ok next =>
    rw [hanswer] at houtcome
    exact .inl ⟨next, rfl, rfl, houtcome.ok_iff.mp ⟨next, rfl⟩, houtcome.revises⟩
  | error e =>
    rw [hanswer] at houtcome
    exact .inr ⟨e, rfl, rfl, houtcome.refused_of_error⟩

/-- What is acceptable makes of the default options what it is meant to build. -/
theorem kept_of_ofFields {made : Options} (h : ofFields fields = .ok made) :
    ({} : Options).kept fields = made := by
  have hbuilt : Outcome {} fields (ofFields fields) := revise_outcome {} fields
  have hfields : Acceptable fields := hbuilt.ok_iff.mp ⟨made, h⟩
  have hself : fields.lookup receiver = none := by
    cases hself : fields.lookup receiver with
    | none => rfl
    | some value =>
      obtain ⟨⟨flag, hflag⟩, -⟩ := hfields receiver value hself
      exact absurd hflag (receiver_ne_name flag)
  have hupdate : ({} : Options).update fields = .ok made := by
    unfold update
    rw [hself]
    exact h
  rw [kept, hupdate]

/-! ## Runs -/

theorem last_run (current : Options) (updates : List Arguments) :
    (current.run updates).2 = updates.foldl kept current := by
  induction updates generalizing current with
  | nil => rfl
  | cons fields updates ih => exact ih (current.kept fields)

/-- Each answer is the one of the update on the options that the updates before it left. -/
theorem answers_run (current : Options) (before : List Arguments) (fields : Arguments)
    (later : List Arguments) :
    (current.run (before ++ fields :: later)).1[before.length]? =
      some ((current.run before).2.update fields) := by
  induction before generalizing current with
  | nil => rfl
  | cons first before ih => exact ih (current.kept first)

/-- The call is acceptable and names the flag. -/
def Sets (flag : Flag) (call : Arguments) : Prop :=
  Acceptable call ∧ ∃ value, call.lookup flag.name = some value

/-- The value that a flag has from the call that set it last, or by default if none did. -/
def HasFrom (flag : Flag) (b : Bool) : Option Arguments → Prop
  | some call => call.lookup flag.name = some (.bool b)
  | none => b = ({} : Options).flag flag

/-- The value of a flag after calls of which those that are not acceptable are refused: what the
    last of the others that names the flag gives for it, or the default. -/
def LastGiven (calls : List Arguments) (flag : Flag) (b : Bool) : Prop :=
  ∃ latest, Latest (Sets flag) calls latest ∧ HasFrom flag b latest

theorem hasFrom_kept {flag : Flag} {call : Arguments} (h : Sets flag call) (options : Options) :
    HasFrom flag ((options.kept call).flag flag) (some call) := by
  obtain ⟨hcall, value, hgiven⟩ := h
  obtain ⟨next, -, hkept, -, hrevises⟩ | ⟨e, -, -, hrefused⟩ := kept_cases options call
  · rw [hkept]
    exact hgiven.trans (congrArg some (hrevises.named flag value hgiven))
  · exact absurd hcall hrefused.not_acceptable

theorem flag_kept_of_not_sets {flag : Flag} {call : Arguments} (h : ¬ Sets flag call)
    (options : Options) : (options.kept call).flag flag = options.flag flag := by
  obtain ⟨next, -, hkept, hfields, hrevises⟩ | ⟨e, -, hkept, -⟩ := kept_cases options call
  · rw [hkept]
    apply hrevises.others
    cases hgiven : call.lookup flag.name with
    | none => rfl
    | some value => exact absurd ⟨hfields, value, hgiven⟩ h
  · rw [hkept]

/-- The first call is seen as an update of the default options. -/
theorem lastGiven_foldl (calls : List Arguments) (flag : Flag) :
    LastGiven calls flag ((calls.foldl kept {}).flag flag) := by
  have hsets : ∀ (options : Options) call, Sets flag call →
      HasFrom flag ((options.kept call).flag flag) (some call) :=
    fun options call h => hasFrom_kept h options
  have hother : ∀ (options : Options) call latest, ¬ Sets flag call →
      HasFrom flag (options.flag flag) latest →
      HasFrom flag ((options.kept call).flag flag) latest := by
    intro options call latest hcall hlatest
    rw [flag_kept_of_not_sets hcall]
    exact hlatest
  have hstart : Latest (Sets flag) [] none := .never (List.forall_mem_nil _)
  exact exists_latest_foldl hsets hother hstart rfl calls

/-- Whatever names and values are given to build options and then to update them time after time:
    building succeeds exactly if every name is that of a flag and every value is a truth value, and
    so does each update. An update that succeeds gives the named flags their new values and leaves
    the others, and what it gives is current from then on; one that fails leaves what is current. In
    the end each flag has the value that was given for it last in a call that succeeded, or the
    default value.
    A call that fails does so with an error about the call if a name is not that of a flag, whatever
    the values, and otherwise with one about the value of a flag, which is the strict flag if its
    value is no truth value. -/
theorem flags_of_run (init : Arguments) (updates : List Arguments) :
    ((∃ made, ofFields init = .ok made) ↔ Acceptable init) ∧
    (∀ e, ofFields init = .error e → Refused init e) ∧
    ∀ made, ofFields init = .ok made →
      Revises {} init made ∧
      (∀ before fields later, updates = before ++ fields :: later →
        ∃ current answer,
          (made.run before).2 = current ∧ current.update fields = answer ∧
          (made.run updates).1[before.length]? = some answer ∧
          ((∃ next, answer = .ok next) ↔ Acceptable fields) ∧
          (∀ next, answer = .ok next →
            Revises current fields next ∧ (made.run (before ++ [fields])).2 = next) ∧
          (∀ e, answer = .error e →
            Refused fields e ∧ (made.run (before ++ [fields])).2 = current)) ∧
      ∀ flag, LastGiven (init :: updates) flag ((made.run updates).2.flag flag) := by
  have hbuilt : Outcome {} init (ofFields init) := revise_outcome {} init
  refine ⟨hbuilt.ok_iff, ?refused, ?made⟩
  case refused =>
    intro e he
    rw [he] at hbuilt
    exact hbuilt.refused_of_error
  case made =>
    intro made hmade
    have hinit := kept_of_ofFields hmade
    rw [hmade] at hbuilt
    refine ⟨hbuilt.revises, ?calls, ?flags⟩
    case calls =>
      rintro before fields later rfl
      have houtcome := update_outcome (made.run before).2 fields
      have hnext : (made.run (before ++ [fields])).2 = (made.run before).2.kept fields := by
        simp only [last_run, List.foldl_append, List.foldl_cons, List.foldl_nil]
      refine ⟨_, _, rfl, rfl, answers_run made before fields later, houtcome.ok_iff, ?_⟩
      rw [hnext]
      obtain ⟨next, hanswer, hkept, -, hrevises⟩ | ⟨e, hanswer, hkept, hrefused⟩ :=
        kept_cases (made.run before).2 fields
      · rw [hanswer, hkept]
        refine ⟨?_, fun e he => by cases he⟩
        intro answer hequal
        cases hequal
        exact ⟨hrevises, rfl⟩
      · rw [hanswer, hkept]
        refine ⟨fun next hnext => (by cases hnext), ?_⟩
        intro error hequal
        cases hequal
        exact ⟨hrefused, rfl⟩
    case flags =>
      intro flag
      have hflag := lastGiven_foldl (init :: updates) flag
      rw [List.foldl_cons, hinit, ← last_run] at hflag
      exact hflag

/-- One update is taken; the next has both faults, so that its names are what it is refused for; the
    last gives a number for a truth value. -/
def attempts : List Arguments :=
  [[("check_heading_levels", .bool true)], [("strict", .int 1), ("depth", .null)],
    [("check_heading_levels", .int 0), ("strict", .bool false)]]

/-- Both flags are left as they were first given. -/
theorem flags_of_attempts :
    ofFields [("strict", .bool true)] = .ok { strict := true } ∧
      (({ strict := true } : Options).run attempts).2 =
        { strict := true, checkHeadingLevels := true } ∧
      LastGiven ([("strict", .bool true)] :: attempts) .strict true ∧
      LastGiven ([("strict", .bool true)] :: attempts) .checkHeadingLevels true := by
  obtain ⟨-, -, hrun⟩ := flags_of_run [("strict", .bool true)] attempts
  obtain ⟨-, -, hlast⟩ := hrun { strict := true } rfl
  exact ⟨rfl, rfl, hlast .strict, hlast .checkHeadingLevels⟩

end Folio.Options
