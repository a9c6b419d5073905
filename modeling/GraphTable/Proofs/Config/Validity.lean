import GraphTable.Config.EnvironmentFile
import GraphTable.Config.File
import GraphTable.Proofs.Config.Settings

/-!
# Valid configurations

Wherever a configuration is made from, it is handed out only if it is valid.  Of
environment variables a configuration is made exactly if all of them can be read
and what they say is valid; the first variable that cannot be read is reported,
and what is wrong with a configuration only if there is none.
-/

namespace GraphTable

theorem Except.bind_eq_ok_iff {ε α β : Type} {first : Except ε α}
    {next : α → Except ε β} {result : β} :
    (first >>= next) = .ok result ↔
      ∃ value, first = .ok value ∧ next value = .ok result := by
  cases first with
  | ok value =>
      constructor
      · exact fun isResult => ⟨value, rfl, isResult⟩
      · rintro ⟨_, ⟨⟩, isResult⟩
        exact isResult
  | error error =>
      constructor
      · nofun
      · rintro ⟨_, ⟨⟩, -⟩

theorem Except.bind_eq_error_iff {ε α β : Type} {first : Except ε α}
    {next : α → Except ε β} {error : ε} :
    (first >>= next) = .error error ↔
      first = .error error ∨
        ∃ value, first = .ok value ∧ next value = .error error := by
  cases first with
  | ok value =>
      constructor
      · exact fun failed => .inr ⟨value, rfl, failed⟩
      · rintro (isError | ⟨_, ⟨⟩, failed⟩)
        · cases isError
        · exact failed
  | error other =>
      constructor
      · exact fun failed => .inl (by cases failed; rfl)
      · rintro (isError | ⟨_, isOk, -⟩)
        · cases isError
          rfl
        · cases isOk

theorem Except.eq_ok_of_toOption {ε α : Type} {result : Except ε α} {value : α}
    (isSome : result.toOption = some value) : result = .ok value := by
  cases result with
  | ok other => exact congrArg _ (Option.some.inj isSome)
  | error => cases isSome

namespace Config

/-- A configuration that a reader can work with. -/
structure Valid (config : Config) : Prop where
  host : config.host ≠ ""
  port : 1 ≤ config.port ∧ config.port ≤ 65535
  timeout : 1 ≤ config.timeout ∧ config.timeout ≤ 600000
  maxBlockRows : 1 ≤ config.maxBlockRows ∧ config.maxBlockRows ≤ 10000

/-- What a violation says of a configuration. -/
def Breaks (config : Config) : Violation → Prop
  | .emptyHost => config.host = ""
  | .portOutOfRange => ¬(1 ≤ config.port ∧ config.port ≤ 65535)
  | .timeoutOutOfRange => ¬(1 ≤ config.timeout ∧ config.timeout ≤ 600000)
  | .blockRowsOutOfRange =>
      ¬(1 ≤ config.maxBlockRows ∧ config.maxBlockRows ≤ 10000)

variable {config other : Config}

theorem isWithin_iff {limit n : Nat} :
    isWithin limit n = true ↔ 1 ≤ n ∧ n ≤ limit := by
  rw [isWithin, Bool.and_eq_true, decide_eq_true_eq, decide_eq_true_eq]

theorem mem_violations_iff {violation : Violation} :
    violation ∈ config.violations ↔ config.Breaks violation := by
  cases violation <;> simp [violations, Breaks, ← isWithin_iff]

theorem valid_iff : config.Valid ↔ config.violations = [] := by
  rw [List.eq_nil_iff_forall_not_mem]
  simp only [mem_violations_iff]
  constructor
  · rintro valid (_ | _ | _ | _) breaks
    · exact valid.host breaks
    · exact breaks valid.port
    · exact breaks valid.timeout
    · exact breaks valid.maxBlockRows
  · intro whole
    exact ⟨whole .emptyHost, Decidable.of_not_not (whole .portOutOfRange),
      Decidable.of_not_not (whole .timeoutOutOfRange),
      Decidable.of_not_not (whole .blockRowsOutOfRange)⟩

theorem validated_eq_ok_iff :
    config.validated = .ok other ↔ other = config ∧ config.Valid := by
  rw [valid_iff, validated]
  cases config.violations <;> simp [eq_comm]

theorem validated_eq_error_iff {error : ConfigError} :
    config.validated = .error error ↔
      ¬config.Valid ∧ error = .invalid config.violations := by
  rw [valid_iff, validated]
  cases config.violations <;> simp [eq_comm]

open Setting

/-- What the variables say, each about its own setting. -/
structure Stated (environment : Environment) (config : Config) : Prop where
  host : Tells environment "GREMLIN_HOST" "localhost" Eq config.host
  port : Tells environment "GREMLIN_PORT" 8182
    (SpellsNatural (Word.limit 16)) config.port
  timeout : Tells environment "GREMLIN_REQUEST_TIMEOUT_MS" 30000
    (SpellsNatural (Word.limit 64)) config.timeout
  maxBlockRows : Tells environment "READER_MAX_BLOCK_ROWS" 1000
    (SpellsNatural (Word.limit 64)) config.maxBlockRows
  strict : Tells environment "READER_STRICT_QUERY_KIND" false SpellsBool
    config.strict

/-- The variables that may be unreadable, in order, with the texts that their
settings can have. -/
def settings : List (String × (String → Prop)) :=
  [("GREMLIN_PORT", fun text => ∃ n, SpellsNatural (Word.limit 16) text n),
    ("GREMLIN_REQUEST_TIMEOUT_MS",
      fun text => ∃ n, SpellsNatural (Word.limit 64) text n),
    ("READER_MAX_BLOCK_ROWS",
      fun text => ∃ n, SpellsNatural (Word.limit 64) text n),
    ("READER_STRICT_QUERY_KIND", fun text => ∃ value, SpellsBool text value)]

/-- A variable has no text, or one that its setting can have. -/
def Readable (environment : Environment) (setting : String × (String → Prop)) :
    Prop :=
  ∀ text, environment.text? setting.1 = some text → setting.2 text

/-- The first variable that cannot be read, and its text. -/
inductive FirstUnreadable (environment : Environment) (name text : String) : Prop
  | mk (before : List (String × (String → Prop)))
      {after : List (String × (String → Prop))} {accepts : String → Prop}
      (split : settings = before ++ (name, accepts) :: after)
      (readable : ∀ setting ∈ before, Readable environment setting)
      (hasText : environment.text? name = some text)
      (refused : ¬accepts text)

variable {environment : Environment} {name text : String}

theorem readable_of_tells {α : Type} {default value : α}
    {Spells : String → α → Prop}
    (tells : Tells environment name default Spells value) :
    Readable environment (name, fun text => ∃ value, Spells text value) := by
  rintro text hasText
  rcases tells with noText | ⟨isText, spells⟩
  · rw [noText] at hasText
    cases hasText
  · rw [isText] at hasText
    cases hasText
    exact ⟨value, spells⟩

theorem Stated.readable (stated : Stated environment config) :
    ∀ setting ∈ settings, Readable environment setting := by
  simp only [settings, List.forall_mem_cons]
  exact ⟨readable_of_tells stated.port, readable_of_tells stated.timeout,
    readable_of_tells stated.maxBlockRows, readable_of_tells stated.strict, nofun⟩

theorem tells_host_iff {host : String} :
    (environment.text? "GREMLIN_HOST").getD "localhost" = host ↔
      Tells environment "GREMLIN_HOST" "localhost" Eq host := by
  constructor
  · rintro rfl
    cases hasText : environment.text? "GREMLIN_HOST" with
    | none => exact .unset hasText
    | some text => exact .set hasText rfl
  · rintro (noText | ⟨hasText, rfl⟩)
    · rw [noText, Option.getD_none]
    · rw [hasText, Option.getD_some]

theorem spellsNatural_exact (bits : Nat) (text : String) (n : Nat) :
    natural (Word.limit bits) text = .ok n ↔
      SpellsNatural (Word.limit bits) text n :=
  natural_eq_ok_iff (Nat.pow_pos (by decide))

theorem readEnvironment_eq_ok_iff :
    readEnvironment environment = .ok config ↔ Stated environment config := by
  simp only [readEnvironment, Except.bind_eq_ok_iff,
    read_eq_ok_iff (spellsNatural_exact _),
    read_eq_ok_iff (fun _ _ => bool_eq_ok_iff)]
  constructor
  · rintro ⟨port, portTold, timeout, timeoutTold, maxBlockRows, rowsTold, strict,
      strictTold, ⟨⟩⟩
    exact ⟨tells_host_iff.mp rfl, portTold, timeoutTold, rowsTold, strictTold⟩
  · rintro ⟨host, port, timeout, maxBlockRows, strict⟩
    refine ⟨_, port, _, timeout, _, maxBlockRows, _, strict, ?_⟩
    rw [← tells_host_iff] at host
    exact congrArg _ (by rw [host])

/-- Reading fails at the first variable that cannot be read. -/
theorem firstUnreadable_of_error {error : ConfigError}
    (failed : readEnvironment environment = .error error) :
    ∃ name text fault, error = .setting name text fault ∧
      FirstUnreadable environment name text := by
  simp only [readEnvironment, Except.bind_eq_error_iff,
    read_eq_ok_iff (spellsNatural_exact _),
    read_eq_ok_iff (fun _ _ => bool_eq_ok_iff),
    read_eq_error_iff (spellsNatural_exact _),
    read_eq_error_iff (fun _ _ => bool_eq_ok_iff)] at failed
  rcases failed with ⟨text, fault, rfl, -, hasText, refused⟩ |
    ⟨port, portTold, ⟨text, fault, rfl, -, hasText, refused⟩ |
      ⟨timeout, timeoutTold, ⟨text, fault, rfl, -, hasText, refused⟩ |
        ⟨maxBlockRows, rowsTold, ⟨text, fault, rfl, -, hasText, refused⟩ |
          ⟨strict, -, ⟨⟩⟩⟩⟩⟩
  · exact ⟨_, text, fault, rfl,
      .mk [] rfl nofun hasText (not_exists.mpr refused)⟩
  · have readable : ∀ setting ∈ settings.take 1, Readable environment setting :=
      List.forall_mem_cons.mpr ⟨readable_of_tells portTold, nofun⟩
    exact ⟨_, text, fault, rfl,
      .mk _ rfl readable hasText (not_exists.mpr refused)⟩
  · have readable : ∀ setting ∈ settings.take 2, Readable environment setting :=
      List.forall_mem_cons.mpr ⟨readable_of_tells portTold,
        List.forall_mem_cons.mpr ⟨readable_of_tells timeoutTold, nofun⟩⟩
    exact ⟨_, text, fault, rfl,
      .mk _ rfl readable hasText (not_exists.mpr refused)⟩
  · have readable : ∀ setting ∈ settings.take 3, Readable environment setting :=
      List.forall_mem_cons.mpr ⟨readable_of_tells portTold,
        List.forall_mem_cons.mpr ⟨readable_of_tells timeoutTold,
          List.forall_mem_cons.mpr ⟨readable_of_tells rowsTold, nofun⟩⟩⟩
    exact ⟨_, text, fault, rfl,
      .mk _ rfl readable hasText (not_exists.mpr refused)⟩

/-- Two splits of a list at items that do not stand before each other are at the
same item. -/
theorem eq_of_splits {α : Type} {before after others behind : List α}
    {first second : α}
    (same : before ++ first :: after = others ++ second :: behind)
    (firstApart : first ∉ others) (secondApart : second ∉ before) :
    first = second := by
  rcases List.append_eq_append_iff.mp same with
    ⟨between, rfl, rest⟩ | ⟨between, rfl, rest⟩
  · cases between with
    | nil => exact (List.cons.inj rest).1
    | cons head tail =>
        rw [(List.cons.inj rest).1] at firstApart
        exact absurd (List.mem_append_right before List.mem_cons_self) firstApart
  · cases between with
    | nil => exact (List.cons.inj rest).1.symm
    | cons head tail =>
        rw [(List.cons.inj rest).1] at secondApart
        exact absurd (List.mem_append_right others List.mem_cons_self) secondApart

theorem FirstUnreadable.unique {otherName otherText : String}
    (first : FirstUnreadable environment name text)
    (second : FirstUnreadable environment otherName otherText) :
    name = otherName ∧ text = otherText := by
  obtain ⟨before, split, readable, hasText, refused⟩ := first
  obtain ⟨others, otherSplit, otherReadable, otherHasText, otherRefused⟩ := second
  have same := eq_of_splits (split.symm.trans otherSplit)
    (fun mem => refused (otherReadable _ mem text hasText))
    (fun mem => otherRefused (readable _ mem otherText otherHasText))
  obtain ⟨rfl, -⟩ := Prod.mk.inj same
  rw [hasText] at otherHasText
  exact ⟨rfl, Option.some.inj otherHasText⟩

theorem not_stated_of_firstUnreadable
    (first : FirstUnreadable environment name text) :
    ¬Stated environment config := by
  intro stated
  obtain ⟨before, split, -, hasText, refused⟩ := first
  have mem : (name, _) ∈ settings :=
    split ▸ List.mem_append_right before List.mem_cons_self
  exact refused (stated.readable _ mem text hasText)

theorem readEnvironment_eq_error_iff :
    (∃ fault, readEnvironment environment = .error (.setting name text fault)) ↔
      FirstUnreadable environment name text := by
  constructor
  · rintro ⟨fault, failed⟩
    obtain ⟨_, _, _, ⟨⟩, first⟩ := firstUnreadable_of_error failed
    exact first
  · intro first
    cases isRead : readEnvironment environment with
    | ok config =>
        have stated := readEnvironment_eq_ok_iff.mp isRead
        exact absurd stated (not_stated_of_firstUnreadable first)
    | error error =>
        obtain ⟨_, _, fault, rfl, other⟩ := firstUnreadable_of_error isRead
        obtain ⟨rfl, rfl⟩ := first.unique other
        exact ⟨fault, rfl⟩

theorem ofEnvironment_eq_ok_iff :
    ofEnvironment environment = .ok config ↔
      Stated environment config ∧ config.Valid := by
  simp only [ofEnvironment, Except.bind_eq_ok_iff, readEnvironment_eq_ok_iff,
    validated_eq_ok_iff]
  constructor
  · rintro ⟨config, stated, rfl, valid⟩
    exact ⟨stated, valid⟩
  · rintro ⟨stated, valid⟩
    exact ⟨config, stated, rfl, valid⟩

theorem ofEnvironment_eq_error_iff {error : ConfigError} :
    ofEnvironment environment = .error error ↔
      readEnvironment environment = .error error ∨
        ∃ config, Stated environment config ∧ ¬config.Valid ∧
          error = .invalid config.violations := by
  simp only [ofEnvironment, Except.bind_eq_error_iff, readEnvironment_eq_ok_iff,
    validated_eq_error_iff]

theorem ofEnvironment_eq_setting_iff :
    (∃ fault, ofEnvironment environment = .error (.setting name text fault)) ↔
      FirstUnreadable environment name text := by
  rw [← readEnvironment_eq_error_iff]
  refine exists_congr fun fault => ?_
  rw [ofEnvironment_eq_error_iff]
  constructor
  · rintro (failed | ⟨config, -, -, ⟨⟩⟩)
    exact failed
  · exact .inl

theorem ofEnvironment_eq_invalid_iff {violations : List Violation} :
    ofEnvironment environment = .error (.invalid violations) ↔
      ∃ config, Stated environment config ∧ ¬config.Valid ∧
        violations = config.violations := by
  rw [ofEnvironment_eq_error_iff]
  constructor
  · rintro (failed | ⟨config, stated, notValid, ⟨⟩⟩)
    · obtain ⟨_, _, _, ⟨⟩, -⟩ := firstUnreadable_of_error failed
    · exact ⟨config, stated, notValid, rfl⟩
  · rintro ⟨config, stated, notValid, rfl⟩
    exact .inr ⟨config, stated, notValid, rfl⟩

theorem eq_setting_or_eq_invalid {error : ConfigError}
    (failed : ofEnvironment environment = .error error) :
    (∃ name text fault, error = .setting name text fault) ∨
      ∃ violations, error = .invalid violations := by
  rcases ofEnvironment_eq_error_iff.mp failed with
    failed | ⟨config, -, -, rfl⟩
  · obtain ⟨name, text, fault, rfl, -⟩ := firstUnreadable_of_error failed
    exact .inl ⟨name, text, fault, rfl⟩
  · exact .inr ⟨_, rfl⟩

variable {decode? : String → Option Config}

theorem ofTextBy_eq_ok_iff :
    ofTextBy decode? text = .ok config ↔
      decode? text = some config ∧ config.Valid := by
  unfold ofTextBy
  cases decode? text with
  | none => simp
  | some read =>
      rw [validated_eq_ok_iff, Option.some.injEq, eq_comm]
      exact and_congr_right fun same => by rw [same]

theorem ofTextBy_eq_invalid_iff {violations : List Violation} :
    ofTextBy decode? text = .error (.invalid violations) ↔
      ∃ config, decode? text = some config ∧ ¬config.Valid ∧
        violations = config.violations := by
  unfold ofTextBy
  cases decode? text with
  | none => simp
  | some read => simp [validated_eq_error_iff]

theorem ofFileBy_eq_ok_iff {file : Option (List UInt8)} :
    ofFileBy decode? file = .ok config ↔
      ∃ bytes text, file = some bytes ∧ Text.decodeUtf8 bytes = .ok text ∧
        decode? text = some config ∧ config.Valid := by
  simp only [← ofTextBy_eq_ok_iff]
  cases file with
  | none => simp [ofFileBy]
  | some bytes =>
      cases isText : Text.decodeUtf8 bytes <;> simp [ofFileBy, isText]

/-- Of variables, wherever they come from, a configuration is made exactly if
each has a text that its setting can have and the configuration they state is
valid; else the first variable without such a text is reported, or what is wrong
with the configuration.  A configuration that some decoder finds in a text or in
a file is handed out exactly if it is valid. -/
theorem outcomes :
    (∀ environment : Environment,
      (∀ config, ofEnvironment environment = .ok config ↔
        Stated environment config ∧ config.Valid) ∧
      (∀ name text,
        (∃ fault, ofEnvironment environment = .error (.setting name text fault)) ↔
          FirstUnreadable environment name text) ∧
      (∀ violations, ofEnvironment environment = .error (.invalid violations) ↔
        ∃ config, Stated environment config ∧ ¬config.Valid ∧
          violations = config.violations) ∧
      ∀ error, ofEnvironment environment = .error error →
        (∃ name text fault, error = .setting name text fault) ∨
          ∃ violations, error = .invalid violations) ∧
    (∀ decode? : String → Option Config,
      (∀ text config, ofTextBy decode? text = .ok config ↔
        decode? text = some config ∧ config.Valid) ∧
      (∀ text violations,
        ofTextBy decode? text = .error (.invalid violations) ↔
          ∃ config, decode? text = some config ∧ ¬config.Valid ∧
            violations = config.violations) ∧
      ∀ file config, ofFileBy decode? file = .ok config ↔
        ∃ bytes text, file = some bytes ∧ Text.decodeUtf8 bytes = .ok text ∧
          decode? text = some config ∧ config.Valid) ∧
    ∀ (config : Config) violation,
      violation ∈ config.violations ↔ config.Breaks violation :=
  ⟨fun _ => ⟨fun _ => ofEnvironment_eq_ok_iff,
      fun _ _ => ofEnvironment_eq_setting_iff,
      fun _ => ofEnvironment_eq_invalid_iff, fun _ => eq_setting_or_eq_invalid⟩,
    fun _ => ⟨fun _ _ => ofTextBy_eq_ok_iff, fun _ _ => ofTextBy_eq_invalid_iff,
      fun _ _ => ofFileBy_eq_ok_iff⟩,
    fun _ _ => mem_violations_iff⟩

/-- Variables of which one is assigned above the current directory, with a plus
sign and zeros in front. -/
def assignedAbove : Environment :=
  EnvironmentFile.loadNearest [none, some "GREMLIN_PORT=+00443"]
    (Dict.empty.insert "READER_STRICT_QUERY_KIND" (Text.encodeUtf8 "true"))

theorem outcomes_assignedAbove :
    (ofEnvironment assignedAbove = .ok { port := 443, strict := true } ∧
      Stated assignedAbove { port := 443, strict := true } ∧
      Valid { port := 443, strict := true }) ∧
    ofFile (some (Text.encodeUtf8 "gremlin_port: 80")) = .ok { port := 80 } ∧
      Valid { port := 80 } := by
  have made : ofEnvironment assignedAbove = .ok { port := 443, strict := true } :=
    Except.eq_ok_of_toOption (by decide +kernel)
  have held : ofFile (some (Text.encodeUtf8 "gremlin_port: 80")) =
      .ok { port := 80 } :=
    Except.eq_ok_of_toOption (by decide +kernel)
  obtain ⟨ofVariables, ofFiles, -⟩ := outcomes
  obtain ⟨-, -, -, -, -, valid⟩ :=
    ((ofFiles (Yaml.decode? shape.read)).2.2 _ _).mp held
  exact ⟨⟨made, ((ofVariables _).1 _).mp made⟩, held, valid⟩

end Config

end GraphTable
