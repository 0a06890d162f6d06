/-
**Environments that are understood.**

A text is understood as a setting if it is in the setting's grammar (`Setting.Grammatical`), and
then it means one value. The settings that an environment gives have the meanings of the variables
that are present and the defaults of the others (`Denoted`). An environment with a text outside the
grammar gives an error for the first of them, in the order of the settings (`FirstOffence`).

Main statement: `environments_understood`, for every environment. In particular the settings that
are written into an environment are read from it.
-/
import Seeding.Proofs.Text.Padding
import Seeding.Settings

namespace Seeding

/-! ### Grammar -/

/-- The words for a policy. -/
def FailurePolicy.words : FailurePolicy → List String
  | .collectAll => ["collect", "collect_all"]
  | .stopOnFirst => ["stop", "stop_on_first"]

/-- The words for yes and for no. -/
def Settings.flagWords : Bool → List String
  | true => ["1", "true", "yes", "on"]
  | false => ["", "0", "false", "no", "off"]

namespace Setting

/-- The settings in the order in which they are read. -/
def order : List Setting :=
  [.databaseUrl, .maxConnections, .failurePolicy, .progressInterval, .seed, .dryRun]

/-- Which texts are in the grammar of a setting. -/
def Grammatical : Setting → String → Prop
  | .databaseUrl, _ => True
  | .maxConnections, text => ∃ number, Text.IsNumber UInt32.size text number
  | .failurePolicy, text => ∃ policy, Text.IsWord (FailurePolicy.words policy) text
  | .progressInterval, text => ∃ number, Text.IsNumber UInt64.size text number
  | .seed, text => ∃ number, Text.IsNumber UInt64.size text number
  | .dryRun, text => ∃ flag, Text.IsWord (Settings.flagWords flag) text

end Setting

namespace Settings

/-- The value that a variable gives: the default if it is absent, else the meaning of its text. -/
def Given {α : Type} (lookup : String → Option String) (name : String)
    (means : String → α → Prop) (usual value : α) : Prop :=
  match lookup name with
  | none => value = usual
  | some text => means text value

/-- The settings that an environment denotes. -/
structure Denoted (lookup : String → Option String) (settings : Settings) : Prop where
  databaseUrl : Given lookup "DATABASE_URL" (fun text url => url = text)
    ({} : Settings).databaseUrl settings.databaseUrl
  maxConnections : Given lookup "DBGEN_MAX_CONNECTIONS"
    (fun text number => Text.IsNumber UInt32.size text number.toNat)
    ({} : Settings).maxConnections settings.maxConnections
  failurePolicy : Given lookup "DBGEN_FAILURE_POLICY"
    (fun text policy => Text.IsWord policy.words text)
    ({} : Settings).failurePolicy settings.failurePolicy
  progressInterval : Given lookup "DBGEN_PROGRESS_INTERVAL"
    (fun text number => Text.IsNumber UInt64.size text number.toNat)
    ({} : Settings).progressInterval settings.progressInterval
  seed : Given lookup "DBGEN_SEED"
    (fun text seed => ∃ number, seed = some number ∧ Text.IsNumber UInt64.size text number.toNat)
    ({} : Settings).seed settings.seed
  dryRun : Given lookup "DBGEN_DRY_RUN" (fun text flag => Text.IsWord (flagWords flag) text)
    ({} : Settings).dryRun settings.dryRun

/-- An error for the first setting of a list whose text is outside its grammar. The error has the
text as it was given. -/
structure FirstOffence (lookup : String → Option String) (settings : List Setting)
    (error : SettingError) : Prop where
  given : lookup error.setting.name = some error.text
  strange : ¬ error.setting.Grammatical error.text
  first : ∃ before after, settings = before ++ error.setting :: after ∧
    ∀ earlier ∈ before, ∀ text, lookup earlier.name = some text → earlier.Grammatical text

/-! ### One setting -/

/-- A reader of the texts of a setting that reads what they mean. -/
structure Understands {α : Type} (setting : Setting) (parse : String → Option α)
    (means : String → α → Prop) : Prop where
  meaning : ∀ text value, parse text = some value ↔ means text value
  grammatical : ∀ text, setting.Grammatical text ↔ ∃ value, means text value

theorem understands_databaseUrl : Understands .databaseUrl some (fun text url => url = text) where
  meaning text value := by rw [Option.some_inj, eq_comm]
  grammatical text := ⟨fun _ => ⟨text, rfl⟩, fun _ => trivial⟩

/-- Numbers below a bound and their codes. -/
structure Coded {γ : Type} (bound : Nat) (code : Nat → γ) (number : γ → Nat) : Prop where
  positive : 0 < bound
  number_code : ∀ value, value < bound → number (code value) = value
  code_number : ∀ coded, code (number coded) = coded

theorem coded32 : Coded UInt32.size UInt32.ofNat UInt32.toNat where
  positive := by decide
  number_code _ below := UInt32.toNat_ofNat'.trans (Nat.mod_eq_of_lt below)
  code_number _ := UInt32.ofNat_toNat

theorem coded64 : Coded UInt64.size UInt64.ofNat UInt64.toNat where
  positive := by decide
  number_code _ below := UInt64.toNat_ofNat'.trans (Nat.mod_eq_of_lt below)
  code_number _ := UInt64.ofNat_toNat

/-- What is read as a code is a numeral of its number. -/
theorem Coded.read_iff {γ : Type} {bound : Nat} {code : Nat → γ} {number : γ → Nat}
    (coded : Coded bound code number) (text : String) (value : γ) :
    (Text.readBelow bound (Text.trim text.toList)).toOption.map code = some value ↔
      Text.IsNumber bound text (number value) := by
  rw [Text.isNumber_iff coded.positive]
  cases read : Text.readBelow bound (Text.trim text.toList) with
  | error fault =>
    constructor
    · rintro ⟨⟩
    · rintro ⟨⟩
  | ok found =>
    have below : found < bound := ((Text.readBelow_eq_ok_iff coded.positive).mp read).1
    rw [Except.ok.injEq]
    constructor
    · intro coded_eq
      rw [← Option.some.inj coded_eq, coded.number_code found below]
    · rintro rfl
      exact congrArg some (coded.code_number value)

/-- Every number below the bound has a code. -/
theorem Coded.exists_iff {γ : Type} {bound : Nat} {code : Nat → γ} {number : γ → Nat}
    (coded : Coded bound code number) (text : String) :
    (∃ value, Text.IsNumber bound text value) ↔
      ∃ value : γ, Text.IsNumber bound text (number value) := by
  constructor
  · rintro ⟨value, numeral⟩
    refine ⟨code value, ?_⟩
    rw [coded.number_code value numeral.1]
    exact numeral
  · exact fun ⟨value, numeral⟩ => ⟨number value, numeral⟩

theorem understands_maxConnections : Understands .maxConnections number32?
    (fun text number => Text.IsNumber UInt32.size text number.toNat) where
  meaning := coded32.read_iff
  grammatical := coded32.exists_iff

theorem understands_progressInterval : Understands .progressInterval number64?
    (fun text number => Text.IsNumber UInt64.size text number.toNat) where
  meaning := coded64.read_iff
  grammatical := coded64.exists_iff

theorem understands_seed : Understands .seed (fun text => (number64? text).map some)
    (fun text seed =>
      ∃ number, seed = some number ∧ Text.IsNumber UInt64.size text number.toNat) where
  meaning text seed := by
    rw [Option.map_eq_some_iff]
    constructor
    · rintro ⟨number, read, rfl⟩
      exact ⟨number, rfl, (coded64.read_iff text number).mp read⟩
    · rintro ⟨number, rfl, numeral⟩
      exact ⟨number, (coded64.read_iff text number).mpr numeral, rfl⟩
  grammatical text := by
    refine (coded64.exists_iff text).trans ⟨?_, ?_⟩
    · exact fun ⟨number, numeral⟩ => ⟨some number, number, rfl, numeral⟩
    · exact fun ⟨_, number, _, numeral⟩ => ⟨number, numeral⟩

/-- A choice between two values by their words, which are apart. -/
theorem choice_eq_some_iff {α : Type} {words : α → List String} {first second : α}
    (both : ∀ value, value = first ∨ value = second)
    (apart : ∀ word ∈ words first, word ∉ words second) (word : String) (value : α) :
    (if word ∈ words first then some first
      else if word ∈ words second then some second else none) = some value ↔
        word ∈ words value := by
  by_cases here : word ∈ words first
  · rw [if_pos here, Option.some_inj]
    rcases both value with rfl | rfl
    · exact iff_of_true rfl here
    · refine iff_of_false (fun same => apart word here ?_) (apart word here)
      rwa [same] at here
  · rw [if_neg here]
    rcases both value with rfl | rfl
    · refine iff_of_false (fun chosen => ?_) here
      by_cases there : word ∈ words second
      · rw [if_pos there, Option.some_inj] at chosen
        exact here (chosen ▸ there)
      · rw [if_neg there] at chosen
        cases chosen
    · by_cases there : word ∈ words value
      · exact iff_of_true (if_pos there) there
      · rw [if_neg there]
        exact iff_of_false (by simp) there

theorem understands_failurePolicy : Understands .failurePolicy policy?
    (fun text policy => Text.IsWord policy.words text) where
  meaning text policy := by
    have solid : ∀ policy : FailurePolicy, ∀ word ∈ policy.words, Text.Solid word.toList := by
      rintro (_ | _) <;> decide
    have both : ∀ policy : FailurePolicy, policy = .collectAll ∨ policy = .stopOnFirst := by
      rintro (_ | _) <;> decide
    have chosen : policy? text =
        if Text.folded text ∈ FailurePolicy.collectAll.words then some .collectAll
        else if Text.folded text ∈ FailurePolicy.stopOnFirst.words then some .stopOnFirst
        else none := by
      simp only [policy?, FailurePolicy.parse, FailurePolicy.words, List.mem_cons,
        List.not_mem_nil, or_false, apply_ite Except.toOption]
      rfl
    rw [chosen, choice_eq_some_iff both (by decide), Text.isWord_iff (solid policy)]
  grammatical text := Iff.rfl

theorem understands_dryRun : Understands .dryRun flag?
    (fun text flag => Text.IsWord (flagWords flag) text) where
  meaning text flag := by
    have solid : ∀ flag, ∀ word ∈ flagWords flag, Text.Solid word.toList := by decide
    have both : ∀ flag, flag = true ∨ flag = false := by decide
    have apart : ∀ word ∈ flagWords true, word ∉ flagWords false := by decide
    rw [Text.isWord_iff (solid flag)]
    exact choice_eq_some_iff both apart (Text.folded text) flag
  grammatical text := Iff.rfl

/-! ### Reading -/

section Reading

variable {α β : Type} {lookup : String → Option String} {setting : Setting}
  {parse : String → Option α} {means : String → α → Prop} {usual : α}

theorem read_eq_ok_iff (understands : Understands setting parse means) {value : α} :
    read lookup setting parse usual = .ok value ↔
      Given lookup setting.name means usual value := by
  unfold read Given
  cases lookup setting.name with
  | none => exact ⟨fun same => (Except.ok.inj same).symm, congrArg Except.ok ∘ Eq.symm⟩
  | some text =>
    dsimp only
    rw [← understands.meaning]
    cases parse text with
    | none => simp
    | some found => simp

/-- A setting has a value exactly if its text, if there is one, is in the grammar. -/
theorem exists_given_iff (understands : Understands setting parse means) :
    (∃ value, Given lookup setting.name means usual value) ↔
      ∀ text, lookup setting.name = some text → setting.Grammatical text := by
  unfold Given
  cases lookup setting.name with
  | none => exact iff_of_true ⟨usual, rfl⟩ (by rintro _ ⟨⟩)
  | some text =>
    rw [← understands.grammatical]
    exact ⟨fun inside _ same => Option.some.inj same ▸ inside, fun all => all text rfl⟩

theorem read_eq_error_iff (understands : Understands setting parse means) {error : SettingError} :
    read lookup setting parse usual = .error error ↔ error.setting = setting ∧
      lookup setting.name = some error.text ∧ ¬ setting.Grammatical error.text := by
  unfold read
  cases found : lookup setting.name with
  | none => simp
  | some text =>
    dsimp only
    have strange : ¬ setting.Grammatical text ↔ parse text = none := by
      rw [understands.grammatical, Option.eq_none_iff_forall_ne_some, not_exists]
      simp only [understands.meaning, ne_eq]
    cases read : parse text with
    | none =>
      constructor
      · rintro ⟨⟩
        exact ⟨rfl, rfl, strange.mpr read⟩
      · rintro ⟨rfl, same, -⟩
        rw [Option.some.inj same]
    | some value =>
      constructor
      · rintro ⟨⟩
      · rintro ⟨rfl, same, outside⟩
        rw [← Option.some.inj same, strange, read] at outside
        cases outside

/-- A setting that is read before others gives its value to them. -/
theorem read_bind_eq_ok_iff (understands : Understands setting parse means)
    {next : α → Except SettingError β} {result : β} :
    (read lookup setting parse usual >>= next) = .ok result ↔
      ∃ value, Given lookup setting.name means usual value ∧ next value = .ok result := by
  simp only [← read_eq_ok_iff understands]
  cases read lookup setting parse usual with
  | error error => exact iff_of_false (by rintro ⟨⟩) (by rintro ⟨_, ⟨⟩, _⟩)
  | ok value =>
    constructor
    · exact fun last => ⟨value, rfl, last⟩
    · rintro ⟨_, ⟨rfl⟩, last⟩
      exact last

/-- The first offence of a list is that of its first setting, or that setting has none and it is the
first offence of the others. -/
theorem firstOffence_cons_iff {others : List Setting} {error : SettingError} :
    FirstOffence lookup (setting :: others) error ↔
      (error.setting = setting ∧ lookup setting.name = some error.text ∧
        ¬ setting.Grammatical error.text) ∨
      (∀ text, lookup setting.name = some text → setting.Grammatical text) ∧
        FirstOffence lookup others error := by
  constructor
  · rintro ⟨given, strange, before, after, split, earlier⟩
    rcases List.cons_eq_append_iff.mp split with ⟨rfl, same⟩ | ⟨before', rfl, split'⟩
    · obtain ⟨rfl, rfl⟩ := List.cons.inj same
      exact Or.inl ⟨rfl, given, strange⟩
    · obtain ⟨here, others⟩ := List.forall_mem_cons.mp earlier
      exact Or.inr ⟨here, given, strange, before', after, split', others⟩
  · rintro (⟨rfl, given, strange⟩ | ⟨here, given, strange, before, after, rfl, earlier⟩)
    · exact ⟨given, strange, [], others, rfl, fun _ member => absurd member List.not_mem_nil⟩
    · exact ⟨given, strange, setting :: before, after, rfl,
        List.forall_mem_cons.mpr ⟨here, earlier⟩⟩

/-- A setting that is read before others gives its error or, if it has none, theirs. -/
theorem read_bind_eq_error_iff (understands : Understands setting parse means)
    {next : α → Except SettingError β} {others : List Setting} {error : SettingError}
    (later : ∀ value, next value = .error error ↔ FirstOffence lookup others error) :
    (read lookup setting parse usual >>= next) = .error error ↔
      FirstOffence lookup (setting :: others) error := by
  rw [firstOffence_cons_iff, ← read_eq_error_iff understands, ← exists_given_iff understands]
  simp only [← read_eq_ok_iff understands]
  cases read lookup setting parse usual with
  | error found =>
    constructor
    · rintro ⟨⟩
      exact Or.inl rfl
    · rintro (⟨⟨⟩⟩ | ⟨⟨_, ⟨⟩⟩, _⟩)
      rfl
  | ok value =>
    constructor
    · exact fun last => Or.inr ⟨⟨value, rfl⟩, (later value).mp last⟩
    · rintro (⟨⟨⟩⟩ | ⟨_, offence⟩)
      exact (later value).mpr offence

end Reading

/-! ### Environments -/

section Environments

variable {lookup : String → Option String}

theorem ofEnvironment_eq_ok_iff {settings : Settings} :
    ofEnvironment lookup = .ok settings ↔ Denoted lookup settings := by
  unfold ofEnvironment
  simp only [read_bind_eq_ok_iff understands_databaseUrl,
    read_bind_eq_ok_iff understands_maxConnections,
    read_bind_eq_ok_iff understands_failurePolicy,
    read_bind_eq_ok_iff understands_progressInterval, read_bind_eq_ok_iff understands_seed,
    read_bind_eq_ok_iff understands_dryRun]
  constructor
  · rintro ⟨_, url, _, connections, _, policy, _, interval, _, seed, _, flag, ⟨rfl⟩⟩
    exact ⟨url, connections, policy, interval, seed, flag⟩
  · rintro ⟨url, connections, policy, interval, seed, flag⟩
    exact ⟨_, url, _, connections, _, policy, _, interval, _, seed, _, flag, rfl⟩

theorem ofEnvironment_eq_error_iff {error : SettingError} :
    ofEnvironment lookup = .error error ↔ FirstOffence lookup Setting.order error := by
  refine read_bind_eq_error_iff understands_databaseUrl fun _ => ?_
  refine read_bind_eq_error_iff understands_maxConnections fun _ => ?_
  refine read_bind_eq_error_iff understands_failurePolicy fun _ => ?_
  refine read_bind_eq_error_iff understands_progressInterval fun _ => ?_
  refine read_bind_eq_error_iff understands_seed fun _ => ?_
  refine read_bind_eq_error_iff understands_dryRun fun _ => ?_
  refine iff_of_false (by rintro ⟨⟩) ?_
  rintro ⟨_, _, before, after, split, _⟩
  exact absurd split.symm (by simp)

/-- An environment gives settings exactly if all its texts are in their grammars. -/
theorem exists_ofEnvironment_iff :
    (∃ settings, ofEnvironment lookup = .ok settings) ↔
      ∀ (setting : Setting) (text : String),
        lookup setting.name = some text → setting.Grammatical text := by
  constructor
  · rintro ⟨settings, read⟩ setting
    have denoted := ofEnvironment_eq_ok_iff.mp read
    cases setting with
    | databaseUrl => exact (exists_given_iff understands_databaseUrl).mp ⟨_, denoted.databaseUrl⟩
    | maxConnections =>
      exact (exists_given_iff understands_maxConnections).mp ⟨_, denoted.maxConnections⟩
    | failurePolicy =>
      exact (exists_given_iff understands_failurePolicy).mp ⟨_, denoted.failurePolicy⟩
    | progressInterval =>
      exact (exists_given_iff understands_progressInterval).mp ⟨_, denoted.progressInterval⟩
    | seed => exact (exists_given_iff understands_seed).mp ⟨_, denoted.seed⟩
    | dryRun => exact (exists_given_iff understands_dryRun).mp ⟨_, denoted.dryRun⟩
  · intro inside
    cases read : ofEnvironment lookup with
    | ok settings => exact ⟨settings, rfl⟩
    | error error =>
      have offence := ofEnvironment_eq_error_iff.mp read
      exact absurd (inside error.setting error.text offence.given) offence.strange

end Environments

/-! ### Writing -/

/-- The text that is written for a setting. Without a seed none is written. -/
def written? (settings : Settings) : Setting → Option String
  | .databaseUrl => some settings.databaseUrl
  | .maxConnections => some (toString settings.maxConnections.toNat)
  | .failurePolicy => some settings.failurePolicy.name
  | .progressInterval => some (toString settings.progressInterval.toNat)
  | .seed => settings.seed.map fun seed => toString seed.toNat
  | .dryRun => some (toString settings.dryRun)

/-- The environment into which settings are written. -/
def environment (settings : Settings) (name : String) : Option String :=
  (Setting.order.find? fun setting => setting.name = name).bind settings.written?

theorem environment_name (settings : Settings) (setting : Setting) :
    settings.environment setting.name = settings.written? setting := by
  have found : Setting.order.find? (fun other => other.name = setting.name) = some setting := by
    cases setting <;> decide
  rw [environment, found, Option.bind_some]

theorem given_environment {α : Type} (settings : Settings) (setting : Setting)
    {means : String → α → Prop} {usual value : α}
    (written : match settings.written? setting with
      | none => value = usual
      | some text => means text value) :
    Given settings.environment setting.name means usual value := by
  unfold Given
  rw [environment_name]
  exact written

/-- The settings that are written into an environment are denoted by it. -/
theorem denoted_environment (settings : Settings) : Denoted settings.environment settings where
  databaseUrl := settings.given_environment .databaseUrl rfl
  maxConnections := settings.given_environment .maxConnections
    (Text.isNumber_toString settings.maxConnections.toNat_lt)
  failurePolicy := by
    refine settings.given_environment .failurePolicy ⟨_, Text.pads_self _, ?_⟩
    cases settings.failurePolicy <;> decide
  progressInterval := settings.given_environment .progressInterval
    (Text.isNumber_toString settings.progressInterval.toNat_lt)
  seed := by
    refine settings.given_environment .seed ?_
    unfold written?
    cases settings.seed with
    | none => rfl
    | some seed => exact ⟨seed, rfl, Text.isNumber_toString seed.toNat_lt⟩
  dryRun := by
    refine settings.given_environment .dryRun ⟨_, Text.pads_self _, ?_⟩
    cases settings.dryRun <;> decide

/-- **Environments are understood exactly by their grammar.** An environment gives just the settings
that it denotes: those that are present have the value of their text, the address of the database as
it is, and those that are absent have their defaults. It gives settings exactly if all its texts are
in their grammars; otherwise it gives the first offence, in the order of the settings, with its text
as it was given. The settings that are written into an environment are read from it. -/
theorem environments_understood :
    (∀ lookup settings, ofEnvironment lookup = .ok settings ↔ Denoted lookup settings) ∧
    (∀ lookup, (∃ settings, ofEnvironment lookup = .ok settings) ↔
      ∀ (setting : Setting) (text : String),
        lookup setting.name = some text → setting.Grammatical text) ∧
    (∀ lookup error, ofEnvironment lookup = .error error ↔
      FirstOffence lookup Setting.order error) ∧
    ∀ settings : Settings, ofEnvironment settings.environment = .ok settings :=
  ⟨fun _ _ => ofEnvironment_eq_ok_iff, fun _ => exists_ofEnvironment_iff,
    fun _ _ => ofEnvironment_eq_error_iff,
    fun settings => ofEnvironment_eq_ok_iff.mpr settings.denoted_environment⟩

example : ofEnvironment (fun name => if name = "DBGEN_SEED" then some " +007\n" else none) =
    .ok { seed := some 7 } := rfl

example : ofEnvironment (fun name => if name = "DBGEN_SEED" then some " -7\n" else none) =
    .error { setting := .seed, text := " -7\n" } := rfl

end Settings

end Seeding
