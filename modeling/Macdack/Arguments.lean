import Macdack.Text
import Macdack.Library.Outcome

/-!
# The arguments

`parse_args` reads the arguments of the program from left to right. It knows a word that
asks for a check only, and an option that takes the next argument as the path of the
configuration, whatever this argument is. The options for the version and for help end it.

`parse_args_exact` says what it makes of every list of arguments: of any words, and of each
way in which the arguments can end.
-/

set_option autoImplicit false

namespace Macdack

/-- An argument, or a path: any bytes. -/
abbrev OsString := Bytes

/-- What `parse_args` gives: the path of the configuration and whether it is only to be
checked, or nothing, after it has printed a line. -/
inductive Invocation where
  | configured (path : OsString) (check : Bool)
  | printed (line : String)
  deriving DecidableEq

def defaultConfigPath : OsString := Text.asBytes "/etc/macdack/config.toml"

def helpLine : String := "macdack [check-config] [--config PATH] [--version]"

/-- The loop of `parse_args`. -/
def parseArgsFrom (version : String) (path : OsString) (check : Bool) :
    List OsString → Outcome Invocation
  | [] => .ok (.configured path check)
  | arg :: args =>
      match Text.fromUtf8 arg with
      | none => Outcome.fail "arguments must be UTF-8"
      | some text =>
          if text = "check-config" then parseArgsFrom version path true args
          else if text = "--config" then
            match args with
            | [] => Outcome.fail "--config requires a path"
            | given :: args => parseArgsFrom version given check args
          else if text = "--version" ∨ text = "-V" then .ok (.printed ("macdack " ++ version))
          else if text = "--help" ∨ text = "-h" then .ok (.printed helpLine)
          else Outcome.fail ("unknown argument: " ++ text)

def parseArgs (version : String) (args : List OsString) : Outcome Invocation :=
  parseArgsFrom version defaultConfigPath false args

/-- A word of the arguments. -/
inductive Word where
  | checkConfig
  | config (path : OsString)

namespace Word

def render : Word → List OsString
  | checkConfig => [Text.asBytes "check-config"]
  | config path => [Text.asBytes "--config", path]

/-- The path after a word. -/
def path (before : OsString) : Word → OsString
  | checkConfig => before
  | config given => given

def isCheck : Word → Bool
  | checkConfig => true
  | config _ => false

end Word

/-- The arguments that are words or options. -/
def keywords : List String :=
  ["check-config", "--config", "--version", "-V", "--help", "-h"]

/-- How the arguments end after their words, with what comes of a path and a check. -/
inductive Ending (version : String) : List OsString → (OsString → Bool → Outcome Invocation) → Prop
  | done : Ending version [] fun path check => .ok (.configured path check)
  | version {name : String} (rest : List OsString) : name ∈ ["--version", "-V"] →
      Ending version (Text.asBytes name :: rest) fun _ _ => .ok (.printed ("macdack " ++ version))
  | help {name : String} (rest : List OsString) : name ∈ ["--help", "-h"] →
      Ending version (Text.asBytes name :: rest) fun _ _ => .ok (.printed helpLine)
  | pathless : Ending version [Text.asBytes "--config"] fun _ _ =>
      Outcome.fail "--config requires a path"
  | unknown {text : String} (rest : List OsString) : text ∉ keywords →
      Ending version (Text.asBytes text :: rest) fun _ _ =>
        Outcome.fail ("unknown argument: " ++ text)
  | notText {arg : OsString} (rest : List OsString) : Text.fromUtf8 arg = none →
      Ending version (arg :: rest) fun _ _ => Outcome.fail "arguments must be UTF-8"

section Arguments

variable {version : String} {path : OsString} {check : Bool} {args : List OsString}

theorem parseArgsFrom_checkConfig :
    parseArgsFrom version path check (Text.asBytes "check-config" :: args) =
      parseArgsFrom version path true args := by
  rw [parseArgsFrom.eq_def]
  simp only [Text.fromUtf8_asBytes]
  rfl

theorem parseArgsFrom_config (given : OsString) :
    parseArgsFrom version path check (Text.asBytes "--config" :: given :: args) =
      parseArgsFrom version given check args := by
  rw [parseArgsFrom.eq_def]
  simp only [Text.fromUtf8_asBytes]
  rfl

/-- **A word** is read as what it means. -/
theorem parseArgsFrom_word (word : Word) :
    parseArgsFrom version path check (word.render ++ args) =
      parseArgsFrom version (word.path path) (check || word.isCheck) args := by
  cases word with
  | checkConfig =>
      rw [Word.isCheck, Bool.or_true]
      exact parseArgsFrom_checkConfig
  | config given =>
      rw [Word.isCheck, Bool.or_false]
      exact parseArgsFrom_config given

/-- The words are read one after another. -/
theorem parseArgsFrom_words (words : List Word) :
    parseArgsFrom version path check (words.flatMap Word.render ++ args) =
      parseArgsFrom version (words.foldl Word.path path) (check || words.any Word.isCheck)
        args := by
  induction words generalizing path check with
  | nil => rw [List.any_nil, Bool.or_false]; rfl
  | cons word words ih =>
      rw [List.flatMap_cons, List.append_assoc, parseArgsFrom_word, ih, List.foldl_cons,
        List.any_cons, Bool.or_assoc]

/-- **An ending** gives what it stands for. -/
theorem parseArgsFrom_ending {result : OsString → Bool → Outcome Invocation}
    (ends : Ending version args result) :
    parseArgsFrom version path check args = result path check := by
  cases ends with
  | done => rfl
  | @version name rest listed =>
      rw [parseArgsFrom.eq_def]
      simp only [Text.fromUtf8_asBytes]
      simp only [List.mem_cons, List.not_mem_nil, or_false] at listed
      rcases listed with rfl | rfl <;> rfl
  | @help name rest listed =>
      rw [parseArgsFrom.eq_def]
      simp only [Text.fromUtf8_asBytes]
      simp only [List.mem_cons, List.not_mem_nil, or_false] at listed
      rcases listed with rfl | rfl <;> rfl
  | pathless =>
      rw [parseArgsFrom.eq_def]
      simp only [Text.fromUtf8_asBytes]
      rfl
  | @unknown text rest new =>
      simp only [keywords, List.mem_cons, List.not_mem_nil, or_false, not_or] at new
      obtain ⟨one, two, three, four, five, six⟩ := new
      rw [parseArgsFrom.eq_def]
      simp only [Text.fromUtf8_asBytes, if_neg one, if_neg two, if_neg (not_or.mpr ⟨three, four⟩),
        if_neg (not_or.mpr ⟨five, six⟩)]
  | notText rest foreign =>
      rw [parseArgsFrom.eq_def]
      simp only [foreign]

/-- **All arguments** are words and an ending. -/
theorem exists_words (version : String) (args : List OsString) :
    ∃ (words : List Word) (tail : List OsString) (result : OsString → Bool → Outcome Invocation),
      args = words.flatMap Word.render ++ tail ∧ Ending version tail result := by
  induction length : args.length using Nat.strongRecOn generalizing args with
  | ind length ih =>
      cases args with
      | nil => exact ⟨[], [], _, rfl, .done⟩
      | cons arg rest =>
          subst length
          cases read : Text.fromUtf8 arg with
          | none => exact ⟨[], _, _, rfl, .notText rest read⟩
          | some text =>
              obtain rfl : Text.asBytes text = arg := Text.asBytes_of_fromUtf8 read
              by_cases known : text ∈ keywords
              · simp only [keywords, List.mem_cons, List.not_mem_nil, or_false] at known
                rcases known with rfl | rfl | rfl | rfl | rfl | rfl
                · obtain ⟨words, tail, result, rfl, ends⟩ := ih _ (Nat.lt_succ_self _) rest rfl
                  exact ⟨.checkConfig :: words, tail, result, rfl, ends⟩
                · cases rest with
                  | nil => exact ⟨[], _, _, rfl, .pathless⟩
                  | cons given rest =>
                      obtain ⟨words, tail, result, rfl, ends⟩ :=
                        ih rest.length (by simp only [List.length_cons]; omega) rest rfl
                      exact ⟨.config given :: words, tail, result, rfl, ends⟩
                · exact ⟨[], _, _, rfl, .version rest (.head _)⟩
                · exact ⟨[], _, _, rfl, .version rest (.tail _ (.head _))⟩
                · exact ⟨[], _, _, rfl, .help rest (.head _)⟩
                · exact ⟨[], _, _, rfl, .help rest (.tail _ (.head _))⟩
              · exact ⟨[], _, _, rfl, .unknown rest known⟩

/-- A configuration is named by words alone. -/
theorem parseArgs_eq_configured_iff : parseArgs version args = .ok (.configured path check) ↔
    ∃ words : List Word, args = words.flatMap Word.render ∧
      words.foldl Word.path defaultConfigPath = path ∧ words.any Word.isCheck = check := by
  constructor
  · intro accepted
    obtain ⟨words, tail, result, rfl, ends⟩ := exists_words version args
    rw [parseArgs, parseArgsFrom_words, parseArgsFrom_ending ends, Bool.false_or] at accepted
    cases ends with
    | done =>
        cases accepted
        exact ⟨words, List.append_nil _, rfl, rfl⟩
    | version => cases accepted
    | help => cases accepted
    | pathless => cases accepted
    | unknown => cases accepted
    | notText => cases accepted
  · rintro ⟨words, rfl, rfl, rfl⟩
    rw [← List.append_nil (words.flatMap _), parseArgs, parseArgsFrom_words, Bool.false_or]
    rfl

end Arguments

/-- **What the arguments mean.** Every list of arguments is a list of words and an ending,
and gives what the ending stands for with the path of the last option (or the default) and
a check when some word asks for one. A path is whatever follows its option. The
configuration is used exactly when there is nothing behind the words. -/
theorem parse_args_exact (version : String) :
    (∀ args, ∃ (words : List Word) (tail : List OsString)
        (result : OsString → Bool → Outcome Invocation),
      args = words.flatMap Word.render ++ tail ∧ Ending version tail result) ∧
    (∀ (words : List Word) tail result, Ending version tail result →
      parseArgs version (words.flatMap Word.render ++ tail) =
        result (words.foldl Word.path defaultConfigPath) (words.any Word.isCheck)) ∧
    (∀ args path check, parseArgs version args = .ok (.configured path check) ↔
      ∃ words : List Word, args = words.flatMap Word.render ∧
        words.foldl Word.path defaultConfigPath = path ∧ words.any Word.isCheck = check) := by
  refine ⟨exists_words version, fun words tail result ends => ?_,
    fun args path check => parseArgs_eq_configured_iff⟩
  rw [parseArgs, parseArgsFrom_words, parseArgsFrom_ending ends, Bool.false_or]

end Macdack
