import ServiceGen.CommandLine.Arguments
import ServiceGen.Proofs.Settings.Marker

/-!
What is said on the command line against what the environment holds. The environment is read first,
and as a whole, so that any value in it that cannot be read ends the reading. Where all values can
be read, what the command line says stands in place of them, and it does not matter what the
variable held that it replaces.
-/
namespace ServiceGen

section Environment

theorem Variable.key_injective : Function.Injective Variable.key := by
  intro setting other h
  cases setting <;> cases other <;> first | rfl | exact absurd h (by decide)

/-- That two environments differ in one variable at most. -/
def Environment.SameBut (setting : Variable) (env other : Environment) : Prop :=
  ∀ key, key ≠ setting.key → env key = other key

theorem Environment.SameBut.get? {setting : Variable} {env other : Environment}
    (hsame : env.SameBut setting other) {another : Variable} (hne : another ≠ setting) :
    env.get? another = other.get? another :=
  hsame another.key fun hkey => hne (Variable.key_injective hkey)

end Environment

/-! Reading the environment -/

section reading

/-- An error if there is one, and otherwise the value. -/
def refusing {α : Type} (refusal : Option SettingError) (a : α) : Except SettingError α :=
  match refusal with
  | some cause => .error cause
  | none => .ok a

/-- Of two refusals one behind the other the first one counts. -/
theorem refusing_bind {α β : Type} {refusal others : Option SettingError} {a : α} {b : β}
    {next : α → Except SettingError β} (hnext : next a = refusing others b) :
    (refusing refusal a >>= next) = refusing (refusal.or others) b := by
  cases refusal with
  | none => exact hnext
  | some cause => rfl

/-- Why a value is refused, if there is a value and it cannot be read. -/
def ValueRule.refusal? {α : Type} (rule : ValueRule α) (setting : Variable)
    (value : Option String) : Option SettingError :=
  if value.any fun text => (rule.read text).isNone then some (.invalid setting rule.demand)
  else none

theorem ValueRule.refusal?_marker (text : String) :
    marker.refusal? .marker (some text) =
      if isMarker text then none else some (.invalid .marker marker.demand) := by
  cases hmarker : isMarker text <;> simp [refusal?, marker, hmarker]

/-- Why what the environment holds in a variable is refused. The working directory has to be known
from somewhere, and the variables that are texts can hold any text. -/
def Variable.refusal? (current value : Option String) : Variable → Option SettingError
  | .directory => if (value <|> current).isNone then some (.missing .directory) else none
  | .marker => ValueRule.marker.refusal? .marker value
  | .jobs => ValueRule.jobs.refusal? .jobs value
  | .strict => ValueRule.flag.refusal? .strict value
  | .rustfmt => ValueRule.flag.refusal? .rustfmt value
  | .failFast => ValueRule.flag.refusal? .failFast value
  | .continueOnError => ValueRule.flag.refusal? .continueOnError value
  | .output | .patterns | .runtimeCrate | .httpMethod => none

/-- Why an environment is refused: because of the first variable that is. -/
def Environment.refusal? (env : Environment) (current : Option String) : Option SettingError :=
  Variable.all.findSome? fun setting => setting.refusal? current (env.get? setting)

/-- What a value is read as, if there is one. -/
def ValueRule.readOr {α : Type} (rule : ValueRule α) (value : Option String) (otherwise : α) : α :=
  (value.bind rule.read).getD otherwise

/-- The settings that an environment holds if none of its values is refused. -/
def Settings.heldBy (env : Environment) (current : Option String) (cores : Nat) : Settings :=
  let defaults := initial ((env.get? .directory <|> current).getD "") cores
  { directory := defaults.directory
    output := env.get? .output
    patterns := ((env.get? .patterns).map patternsOf).getD defaults.patterns
    generation := {
      runtimeCrate := (env.get? .runtimeCrate).getD defaults.generation.runtimeCrate
      strict := ValueRule.flag.readOr (env.get? .strict) defaults.generation.strict
      httpMethod :=
        ((env.get? .httpMethod).map (·.map Char.toUpper)).getD defaults.generation.httpMethod
      marker := ValueRule.marker.readOr (env.get? .marker) defaults.generation.marker }
    walk := ⟨ValueRule.jobs.readOr (env.get? .jobs) defaults.walk.parallelism,
      ValueRule.flag.readOr (env.get? .continueOnError) defaults.walk.continueOnError⟩
    rustfmt := ValueRule.flag.readOr (env.get? .rustfmt) defaults.rustfmt
    failFast := ValueRule.flag.readOr (env.get? .failFast) defaults.failFast }

theorem Settings.valueOf_eq {α : Type} (env : Environment) (setting : Variable)
    (rule : ValueRule α) (otherwise : α) :
    valueOf env setting rule otherwise =
      refusing (rule.refusal? setting (env.get? setting))
        (rule.readOr (env.get? setting) otherwise) := by
  rw [valueOf]
  cases env.get? setting with
  | none => rfl
  | some text =>
    cases hread : rule.read text with
    | none => simp [ValueRule.refusal?, hread, refusing]
    | some value => simp [ValueRule.refusal?, ValueRule.readOr, hread, refusing]

/-- The variables that can be refused, in the order in which they are read. -/
theorem Environment.refusal?_eq (env : Environment) (current : Option String) :
    let refusal (setting : Variable) := setting.refusal? current (env.get? setting)
    env.refusal? current = (refusal .directory).or ((refusal .marker).or ((refusal .jobs).or
      ((refusal .strict).or ((refusal .rustfmt).or ((refusal .failFast).or
        ((refusal .continueOnError).or none)))))) := by
  have hcons (f : Variable → Option SettingError) (setting : Variable) (rest : List Variable) :
      (setting :: rest).findSome? f = (f setting).or (rest.findSome? f) := by
    rw [List.findSome?_cons]
    cases f setting <;> rfl
  simp only [refusal?, Variable.all, hcons, List.findSome?_nil]
  rfl

/-- Reading an environment fails with the first variable that is refused, and in no other way. -/
theorem Settings.ofEnvironment_eq (env : Environment) (current : Option String) (cores : Nat) :
    ofEnvironment env current cores =
      refusing (env.refusal? current) (heldBy env current cores) := by
  rw [Environment.refusal?_eq, ofEnvironment, heldBy]
  simp only [Variable.refusal?, valueOf_eq]
  cases env.get? .directory <|> current with
  | none => rfl
  | some directory =>
    refine refusing_bind (refusing_bind (refusing_bind (refusing_bind (refusing_bind
      (refusing_bind ?_)))))
    rfl

end reading

namespace Arguments

/-! Settings in which something is replaced -/

/-- The settings that a command line makes of others if it names no marker that is refused. -/
def replaced (arguments : Arguments) (env : Environment) (settings : Settings) : Settings :=
  let value := arguments.valueIn env
  let has (switch : Switch) : Bool := arguments.switches.contains switch
  { directory := (value .directory).getD settings.directory
    output := value .output <|> settings.output
    patterns := if arguments.patterns.isEmpty then settings.patterns else arguments.patterns
    generation := {
      runtimeCrate := (value .runtimeCrate).getD settings.generation.runtimeCrate
      strict := settings.generation.strict && !has .lenient
      httpMethod :=
        ((value .httpMethod).map (·.map Char.toUpper)).getD settings.generation.httpMethod
      marker := (value .marker).getD settings.generation.marker }
    walk := ⟨(((value .jobs).bind Text.Number.natural?).map (max 1)).getD
        settings.walk.parallelism,
      settings.walk.continueOnError || has .continueOnError⟩
    rustfmt := settings.rustfmt || has .rustfmt
    failFast := settings.failFast || has .failFast }

/-- A command line is applied unless it names a marker that is refused. -/
theorem apply_eq (arguments : Arguments) (env : Environment) (settings : Settings) :
    arguments.apply env settings =
      refusing (ValueRule.marker.refusal? .marker (arguments.valueIn env .marker))
        (arguments.replaced env settings) := by
  rw [apply, replaced]
  dsimp only
  cases arguments.valueIn env .marker with
  | none => rfl
  | some marker =>
    dsimp only
    rw [Settings.setMarker_eq, ValueRule.refusal?_marker]
    cases ValueRule.isMarker marker <;> rfl

/-- The outcome of reading the environment and then applying the command line. -/
theorem settings_eq (arguments : Arguments) (env : Environment) (current : Option String)
    (cores : Nat) :
    arguments.settings env current cores =
      refusing ((env.refusal? current).or
          (ValueRule.marker.refusal? .marker (arguments.valueIn env .marker)))
        (arguments.replaced env (.heldBy env current cores)) := by
  rw [settings, Settings.ofEnvironment_eq]
  exact refusing_bind (apply_eq _ _ _)

/-! What a command line gives -/

/-- That all values of a command line are admitted by their options. -/
def IsFit (arguments : Arguments) : Prop :=
  ∀ entry ∈ arguments.values, entry.1.admits entry.2 = true

section

variable {arguments after : Arguments}

theorem IsFit.give {option : ValueOption} {text : String} (hfit : arguments.IsFit)
    (hgive : arguments.give option text = .ok after) : after.IsFit := by
  rw [Arguments.give] at hgive
  split at hgive
  · next hadmits =>
    obtain rfl := Except.ok.inj hgive
    intro entry hentry
    rcases List.mem_append.mp hentry with hentry | hentry
    · exact hfit entry hentry
    · obtain rfl := List.mem_singleton.mp hentry
      exact (Bool.and_eq_true_iff.mp hadmits).1
  · exact absurd hgive (by simp)

theorem IsFit.turnOn {switch : Switch} (hfit : arguments.IsFit)
    (hturn : arguments.turnOn switch = .ok after) : after.IsFit := by
  rw [Arguments.turnOn] at hturn
  split at hturn
  · exact absurd hturn (by simp)
  · obtain rfl := Except.ok.inj hturn
    exact hfit

/-- Every argument that is taken in leaves the values admitted. -/
theorem IsFit.takeIn {list : List String} (hfit : arguments.IsFit)
    (htake : arguments.takeIn list = .ok after) : after.IsFit := by
  fun_induction Arguments.takeIn arguments list with
  | case1 => exact Except.ok.inj htake ▸ hfit
  | case2 _ _ _ _ ih => exact ih hfit htake
  | case3 => exact Except.ok.inj htake ▸ hfit
  | case5 _ _ _ _ _ _ hturn ih => exact ih (hfit.turnOn hturn) htake
  | case7 _ _ _ _ _ _ _ hgive ih => exact ih (hfit.give hgive) htake
  | case10 _ _ _ _ _ _ _ _ hgive ih => exact ih (hfit.give hgive) htake
  | case4 | case6 | case8 | case9 | case11 | case12 => exact absurd htake (by simp)

theorem isFit_of_ofList {list : List String} (hlist : ofList list = .ok arguments) :
    arguments.IsFit :=
  IsFit.takeIn (fun _ hentry => absurd hentry List.not_mem_nil) hlist

theorem IsFit.admits {option : ValueOption} {text : String} (hfit : arguments.IsFit)
    (hvalue : arguments.value? option = some text) : option.admits text = true := by
  obtain ⟨entry, hfind, rfl⟩ := Option.map_eq_some_iff.mp hvalue
  obtain rfl : entry.1 = option := by simpa using List.find?_some hfind
  exact hfit entry (List.mem_of_find?_eq_some hfind)

end

theorem setting_injective : Function.Injective ValueOption.setting := by
  intro option other h
  cases option <;> cases other <;> first | rfl | exact absurd h (by decide)

/-- That a command line gives a value for what a variable holds otherwise. -/
inductive Gives (arguments : Arguments) : Variable → Prop
  | patterns (hpatterns : arguments.patterns ≠ []) : arguments.Gives .patterns
  | value {option : ValueOption} {text : String} (hvalue : arguments.value? option = some text) :
    arguments.Gives option.setting

section

variable {arguments : Arguments} {setting : Variable} {env other : Environment}

/-- The environment is asked for the values of options only that are not given. -/
theorem valueIn_congr (hgiven : arguments.Gives setting) (hsame : env.SameBut setting other) :
    arguments.valueIn env = arguments.valueIn other := by
  funext option
  rw [valueIn, valueIn]
  cases hvalue : arguments.value? option with
  | some text => rfl
  | none =>
    have hne : option.setting ≠ setting := by
      intro heq
      cases hgiven with
      | patterns => cases option <;> exact absurd heq (by decide)
      | value hother =>
        rw [setting_injective heq, hother] at hvalue
        exact absurd hvalue (by simp)
    rw [hsame.get? hne]

/-- What the command line says stands in place of whatever the variable held. -/
theorem replaced_congr (hfit : arguments.IsFit) (hgiven : arguments.Gives setting)
    (hsame : env.SameBut setting other) (current : Option String) (cores : Nat) :
    arguments.replaced env (.heldBy env current cores) =
      arguments.replaced other (.heldBy other current cores) := by
  have hvalues := valueIn_congr hgiven hsame
  have hget (another : Variable) (hne : another ≠ setting) :
      env.get? another = other.get? another := hsame.get? hne
  rw [replaced, replaced, hvalues]
  cases hgiven with
  | patterns hpatterns =>
    simp [Settings.heldBy, Settings.initial, hget, hpatterns]
  | @value option text hvalue =>
    have hin : arguments.valueIn other option = some text := by rw [valueIn, hvalue]; rfl
    have hadmits := hfit.admits hvalue
    cases option with
    | jobs =>
      -- Only a number that can be read takes the place of the other one.
      obtain ⟨count, hcount⟩ := Option.isSome_iff_exists.mp hadmits
      rw [ValueOption.setting] at hget
      simp [Settings.heldBy, Settings.initial, hget, hin, hcount]
    | directory | output | marker | runtimeCrate | httpMethod =>
      rw [ValueOption.setting] at hget
      simp [Settings.heldBy, Settings.initial, hget, hin]

end

/-! Refusals -/

section

variable {arguments : Arguments} {setting : Variable} {env other : Environment}
  {current : Option String}

theorem refusal?_congr (hsame : env.SameBut setting other)
    (hrefusal : setting.refusal? current (env.get? setting) =
      setting.refusal? current (other.get? setting)) :
    env.refusal? current = other.refusal? current := by
  rw [Environment.refusal?, Environment.refusal?]
  congr 1
  funext another
  by_cases hne : another = setting
  · rw [hne, hrefusal]
  · rw [hsame.get? hne]

theorem exists_refusal {cause : SettingError}
    (hrefused : setting.refusal? current (env.get? setting) = some cause) :
    ∃ first, env.refusal? current = some first := by
  rw [← Option.isSome_iff_exists, Environment.refusal?, List.findSome?_isSome_iff]
  refine ⟨setting, ?_, by rw [hrefused]; rfl⟩
  cases setting <;> decide

/-- Where nothing else is refused, the one variable that is refused ends the reading. -/
theorem refusal?_of_other (hsame : env.SameBut setting other)
    (hother : other.refusal? current = none) {first : SettingError}
    (hfirst : env.refusal? current = some first) :
    setting.refusal? current (env.get? setting) = some first := by
  obtain ⟨another, hmem, hanother⟩ := List.exists_of_findSome?_eq_some hfirst
  by_cases hne : another = setting
  · rwa [hne] at hanother
  · rw [hsame.get? hne, List.findSome?_eq_none_iff.mp hother another hmem] at hanother
    exact absurd hanother (by simp)

/-- A variable that is a text can hold any. -/
theorem refusal?_of_given (hgiven : arguments.Gives setting) (hjobs : setting ≠ .jobs)
    (hmarker : setting ≠ .marker) (hdirectory : setting = .directory → current ≠ none)
    (value : Option String) : setting.refusal? current value = none := by
  cases hgiven with
  | patterns => rfl
  | @value option text hvalue =>
    cases option with
    | directory =>
      obtain ⟨directory, hcurrent⟩ := Option.ne_none_iff_exists'.mp (hdirectory rfl)
      cases value <;> simp [Variable.refusal?, ValueOption.setting, hcurrent]
    | jobs => exact absurd rfl hjobs
    | marker => exact absurd rfl hmarker
    | output | runtimeCrate | httpMethod => rfl

end

/-- What the command line says goes before what the environment holds. If it gives a value, the
outcome does not depend on the variable of that value, so long as the variable is not refused in one
case and accepted in the other. Only the number of jobs and the marker can be refused, and the
working directory if it is known from nowhere else. A refused variable ends everything, whatever the
command line says, and is what is told if nothing else is wrong. -/
theorem settings_of_given {list : List String} {arguments : Arguments}
    (hlist : ofList list = .ok arguments) {setting : Variable} (hgiven : arguments.Gives setting)
    {env other : Environment} (hsame : env.SameBut setting other) (current : Option String)
    (cores : Nat) :
    let outcome (env : Environment) := arguments.settings env current cores
    let refusal (env : Environment) := setting.refusal? current (env.get? setting)
    (setting ≠ .jobs → setting ≠ .marker → (setting = .directory → current ≠ none) →
      outcome env = outcome other) ∧
    (refusal env = refusal other → outcome env = outcome other) ∧
    (∀ cause, refusal env = some cause → ∃ first, outcome env = .error first ∧
      ∀ settings, outcome other = .ok settings → first = cause) ∧
    arguments.isAdmissible env = arguments.isAdmissible other := by
  intro outcome refusal
  have hequal (hrefusal : refusal env = refusal other) : outcome env = outcome other := by
    have hvalues := valueIn_congr hgiven hsame
    have hreplaced := replaced_congr (isFit_of_ofList hlist) hgiven hsame current cores
    change arguments.settings env current cores = arguments.settings other current cores
    rw [settings_eq, settings_eq, refusal?_congr hsame hrefusal, hvalues, hreplaced]
  refine ⟨fun hjobs hmarker hdirectory => hequal ?_, hequal, fun cause hcause => ?_, ?_⟩
  · have hnone := refusal?_of_given hgiven hjobs hmarker hdirectory
    exact (hnone _).trans (hnone _).symm
  · obtain ⟨first, hfirst⟩ := exists_refusal hcause
    refine ⟨first, ?_, fun settings hsettings => ?_⟩
    · change arguments.settings env current cores = _
      rw [settings_eq, hfirst]
      rfl
    · have hother : other.refusal? current = none := by
        change arguments.settings other current cores = _ at hsettings
        rw [settings_eq] at hsettings
        cases h : other.refusal? current with
        | none => rfl
        | some cause => simp [h, refusing] at hsettings
      exact Option.some.inj ((refusal?_of_other hsame hother hfirst).symm.trans hcause)
  · rw [isAdmissible, isAdmissible, valueIn_congr hgiven hsame]

/-- An environment in which one variable holds a text. -/
def holding (setting : Variable) (text : String) : Environment :=
  fun key => if key = setting.key then some text else none

theorem sameBut_holding (setting : Variable) (text : String) :
    (holding setting text).SameBut setting fun _ => none := fun _ hkey => if_neg hkey

/-- A command line with a pattern and values for two options. -/
def busy : Arguments := ⟨[(.jobs, "2"), (.marker, "acme")], [], ["src/*.rs"]⟩

/-- It does not matter whether the environment asks for seven jobs or for none in particular, but it
may not ask for no jobs at all. -/
theorem busy_settings :
    ofList ["--jobs", "2", "--marker=acme", "src/*.rs"] = .ok busy ∧ busy.Gives .jobs ∧
      (holding .jobs "7").SameBut .jobs (fun _ => none) ∧
      (holding .jobs "0").SameBut .jobs (fun _ => none) ∧
      busy.settings (holding .jobs "7") (some "/shop") 4 =
        busy.settings (fun _ => none) (some "/shop") 4 ∧
      (busy.settings (fun _ => none) (some "/shop") 4).toOption.map (·.walk.parallelism) =
        some 2 ∧
      ∃ first, busy.settings (holding .jobs "0") (some "/shop") 4 = .error first := by
  have hlist : ofList ["--jobs", "2", "--marker=acme", "src/*.rs"] = .ok busy := by decide +kernel
  have htwo : busy.value? .jobs = some "2" := rfl
  have hgiven : busy.Gives .jobs := .value htwo
  have hseven := sameBut_holding .jobs "7"
  have hzero := sameBut_holding .jobs "0"
  obtain ⟨-, hequal, -, -⟩ := settings_of_given hlist hgiven hseven (some "/shop") 4
  obtain ⟨-, -, hrefused, -⟩ := settings_of_given hlist hgiven hzero (some "/shop") 4
  have hinvalid : Variable.refusal? (some "/shop") ((holding .jobs "0").get? .jobs) .jobs =
      some (.invalid .jobs ValueRule.jobs.demand) := by decide +kernel
  obtain ⟨first, hfirst, -⟩ := hrefused _ hinvalid
  exact ⟨hlist, hgiven, hseven, hzero, hequal (by decide +kernel), by decide +kernel, first, hfirst⟩

/-- Values of the command line do not help against a variable that is refused. -/
theorem refused_variable_ends :
    ofList ["--jobs", "2", "--marker=acme", "src/*.rs"] = .ok busy ∧
      busy.settings (holding .jobs "0") (some "/shop") 4 =
        .error (.invalid .jobs "must be a positive integer") ∧
      busy.settings (holding .marker "Acme") (some "/shop") 4 =
        .error (.invalid .marker "must be lowercase letters and digits") ∧
      (busy.settings (fun _ => none) (some "/shop") 4).toOption.isSome = true := by
  decide +kernel

end Arguments

end ServiceGen
