import ChefDsl.Proofs.ArgumentReading

/-! What the arguments of a command ask for. An option has several spellings, and letters can share an argument, but all
that is accepted asks for an input, an output and verbosity, each at most once. -/

namespace ChefDsl.Proofs.Invocations
open CommandLine Settings ArgumentReading Results

section Statement

/-- What an accepted argument asks for. -/
inductive Ask where
  | input (path : String)
  | output (path : String)
  | verbose
deriving DecidableEq

def Ask.parameter : Ask → Parameter
  | input _ => .input
  | output _ => .output
  | verbose => .verbose

/-- The arguments begin with a spelling of what is asked for, and others are left. -/
inductive Spells : List String → Ask → List String → Prop where
  | input {path : String} (plain : IsPlain path) (rest : List String) : Spells (path :: rest) (.input path) rest
  | outputApart {option path : String} (named : option = "-o" ∨ option = "--output") (plain : IsPlain path)
    (rest : List String) : Spells (option :: path :: rest) (.output path) rest
  | outputEqual {option : String} (named : option = "-o" ∨ option = "--output") (path : String) (rest : List String) :
    Spells ((option ++ "=" ++ path) :: rest) (.output path) rest
  | outputJoined {path : String} (joined : StartsOtherwise '=' path) (rest : List String) :
    Spells (("-o" ++ path) :: rest) (.output path) rest
  | verbose {option : String} (named : option = "-v" ∨ option = "--verbose") (rest : List String) :
    Spells (option :: rest) .verbose rest
  | together {letters : String} (short : StartsOtherwise '-' letters) (rest : List String) :
    Spells (("-v" ++ letters) :: rest) .verbose (("-" ++ letters) :: rest)

/-- All that the arguments ask for, from the left. Behind a bare `--` there are only inputs. -/
inductive Asks : List String → List Ask → Prop where
  | nothing : Asks [] []
  | separated (inputs : List String) : Asks ("--" :: inputs) (inputs.map .input)
  | first {arguments ask rest asked} (spells : Spells arguments ask rest) (others : Asks rest asked) :
    Asks arguments (ask :: asked)

/-- Nothing is asked for twice, and what is not asked for is as it is without arguments. -/
structure Makes (asked : List Ask) (invocation : Invocation) : Prop where
  once : (asked.map Ask.parameter).Nodup
  input : ∀ path, .input path ∈ asked → invocation.input = path
  standardInput : (∀ path, .input path ∉ asked) → invocation.input = "-"
  output : ∀ path, invocation.output = some path ↔ .output path ∈ asked
  verbose : invocation.verbose = true ↔ .verbose ∈ asked

end Statement

section Spellings
variable {settings final : Settings} {arguments rest : List String} {ask : Ask}

/-- What is asked for, taken at once. -/
def grant (settings : Settings) : Ask → Settings.Result Settings
  | .input path => settings.addPositional path >>= settle
  | .output path => settings.attach path
  | .verbose => settings.raiseVerbosity

/-- The arguments are accepted exactly if this is granted and the others are accepted afterwards. -/
def Begins (arguments : List String) (ask : Ask) (rest : List String) : Prop :=
  ∀ settings final, settings.pending = none →
    (settings.addAll arguments = .ok final ↔ ∃ next, grant settings ask = .ok next ∧ next.addAll rest = .ok final)

/-- An argument that is granted by itself. -/
theorem begins_alone {argument : String} (rest : List String) (option : argument ≠ "--")
    (added : ∀ settings, settings.pending = none → settings.add argument = grant settings ask) :
    Begins (argument :: rest) ask rest := by
  intro settings final nothing
  rw [addAll, if_neg option, added settings nothing, bind_eq_ok]

theorem begins_input {path : String} (plain : IsPlain path) (rest : List String) :
    Begins (path :: rest) (.input path) rest := by
  intro settings final nothing
  rw [addAll, if_neg (isPlain_ne plain), add_plain plain, addPlain_complete (by simp [nothing]), grant]
  simp only [bind_eq_ok]
  have complete {waiting : Settings} (added : settings.addPositional path = .ok waiting) :
      waiting.pending ≠ some (.output none) := by
    obtain ⟨_, _, _, rfl⟩ := addPositional_eq_ok.mp added
    simp
  constructor
  · intro taken
    obtain ⟨waiting, added, accepted⟩ := taken
    obtain ⟨next, settles, goes⟩ := (settles_addAll rest waiting final (complete added)).mp accepted
    exact ⟨next, ⟨waiting, added, settles⟩, goes⟩
  · intro granted
    obtain ⟨next, ⟨waiting, added, settles⟩, goes⟩ := granted
    exact ⟨waiting, added, (settles_addAll rest waiting final (complete added)).mpr ⟨next, settles, goes⟩⟩

/-- An output that waits is settled as if it had been given in the argument of its option. -/
theorem settle_output (nothing : settings.pending = none) (path : String) :
    settle { settings with pending := some (.output (some path)) } = settings.attach path := by
  obtain ⟨input, output, used, pending, positional⟩ := settings
  cases nothing
  by_cases given : .output ∈ used
  · simp [settle, attach, use, given]
  · simp [settle, attach, use, given]

theorem begins_outputApart {option path : String} (named : option = "-o" ∨ option = "--output")
    (plain : IsPlain path) (rest : List String) : Begins (option :: path :: rest) (.output path) rest := by
  intro settings final nothing
  have apart : option ≠ "--" := by
    rcases named with rfl | rfl
    · simp
    · simp
  have given : settings.addAll (option :: path :: rest) =
      addAll { settings with pending := some (.output (some path)) } rest := by
    rw [addAll, if_neg apart, add_awaits named, awaitOutput, settle_settled nothing, ok_bind, pure_eq_ok, ok_bind, addAll,
      if_neg (isPlain_ne plain), add_plain plain]
    rfl
  rw [given, settles_addAll rest _ final (by simp), settle_output nothing]
  rfl

theorem begins_outputEqual {option : String} (named : option = "-o" ∨ option = "--output") (path : String)
    (rest : List String) : Begins ((option ++ "=" ++ path) :: rest) (.output path) rest := by
  rcases named with rfl | rfl
  · apply begins_alone rest (ne_separator (by simp))
    intro settings _
    have split : "-o" ++ "=" ++ path = "-" ++ ("o=" ++ path) := by simp [← String.toList_inj]
    have letters : ("o=" ++ path).toList = 'o' :: '=' :: path.toList := by simp
    rw [split, add_short ⟨'o', by rw [letters]; rfl, by simp⟩, letters]
    simp [addShort, grant]
  · apply begins_alone rest (ne_separator (by simp))
    intro settings _
    exact @add_longEqual "output" (by simp) path settings

theorem begins_outputJoined {path : String} (joined : StartsOtherwise '=' path) (rest : List String) :
    Begins (("-o" ++ path) :: rest) (.output path) rest := by
  apply begins_alone rest (ne_separator (by simp))
  intro settings _
  obtain ⟨c, first, other⟩ := joined
  obtain ⟨more, found⟩ := List.head?_eq_some_iff.mp first
  have split : "-o" ++ path = "-" ++ ("o" ++ path) := by simp [← String.toList_inj]
  have letters : ("o" ++ path).toList = 'o' :: c :: more := by simp [found]
  have whole : String.ofList (c :: more) = path := by rw [← found, String.ofList_toList]
  rw [split, add_short ⟨'o', by rw [letters]; rfl, by simp⟩, letters]
  simp [addShort, grant, other, whole]

theorem begins_verbose {option : String} (named : option = "-v" ∨ option = "--verbose") (rest : List String) :
    Begins (option :: rest) .verbose rest := by
  rcases named with rfl | rfl
  · apply begins_alone rest (ne_separator (by simp))
    intro settings _
    have added := @add_short "v" ⟨'v', rfl, by simp⟩ settings
    exact added.trans (bind_pure settings.raiseVerbosity)
  · apply begins_alone rest (ne_separator (by simp))
    intro settings _
    exact @add_long "verbose" (by simp) settings

/-- What stands behind the letter can stand behind a hyphen of its own. -/
theorem begins_together {letters : String} (short : StartsOtherwise '-' letters) (rest : List String) :
    Begins (("-v" ++ letters) :: rest) .verbose (("-" ++ letters) :: rest) := by
  intro settings final _
  have split : "-v" ++ letters = "-" ++ ("v" ++ letters) := by simp [← String.toList_inj]
  have opening : ("v" ++ letters).toList = 'v' :: letters.toList := by simp
  have option : "-v" ++ letters ≠ "--" := ne_separator (by simp)
  have other : "-" ++ letters ≠ "--" := by
    intro same
    have single := congrArg String.toList same
    simp only [String.toList_append, String.reduceToList, List.cons_append, List.nil_append, List.cons.injEq,
      true_and] at single
    simp [StartsOtherwise, single] at short
  rw [addAll, if_neg option, split, add_short ⟨'v', by rw [opening]; rfl, by simp⟩, opening, addShort_verbose, bind_assoc,
    bind_eq_ok]
  simp only [grant, addAll, if_neg other, add_short short]

theorem Spells.begins (spells : Spells arguments ask rest) : Begins arguments ask rest := by
  cases spells with
  | input plain => exact begins_input plain rest
  | outputApart named plain => exact begins_outputApart named plain rest
  | outputEqual named path => exact begins_outputEqual named path rest
  | outputJoined joined => exact begins_outputJoined joined rest
  | verbose named => exact begins_verbose named rest
  | together short => exact begins_together short _

end Spellings

section Accepting
variable {settings final : Settings} {argument : String} {arguments rest : List String}

private theorem value_of_awaits {next : Settings} (nothing : settings.pending = none)
    (awaits : settings.awaitOutput = .ok next) (accepted : next.addAll rest = .ok final) :
    ∃ path others, rest = path :: others ∧ IsPlain path := by
  rw [awaitOutput, settle_settled nothing] at awaits
  cases awaits
  exact plain_of_waiting rfl accepted

private theorem exists_spells_short {letters : String} {next : Settings} (short : StartsOtherwise '-' letters)
    (nothing : settings.pending = none) (added : settings.addShort letters.toList = .ok next)
    (accepted : next.addAll rest = .ok final) : ∃ ask others, Spells (("-" ++ letters) :: rest) ask others := by
  obtain ⟨c, first, _⟩ := short
  obtain ⟨more, split⟩ := List.head?_eq_some_iff.mp first
  have spelled (text : String) (same : text.toList = '-' :: c :: more) : "-" ++ letters = text :=
    String.toList_inj.mp (by rw [String.toList_append, split, same]; rfl)
  rw [split] at added
  obtain ⟨rfl, middle, _, others⟩ | ⟨rfl, rfl, awaits⟩ | ⟨rfl, value, rfl, _⟩ | ⟨rfl, joined, _⟩ :=
    short_of_addShort added
  · cases more with
    | nil =>
      rw [spelled "-v" rfl]
      exact ⟨_, _, .verbose (.inl rfl) rest⟩
    | cons d more =>
      have single : d ≠ '-' := by
        rintro rfl
        obtain ⟨other, _⟩ | ⟨other, _⟩ | ⟨other, _⟩ | ⟨other, _⟩ := short_of_addShort others
        all_goals contradiction
      rw [spelled ("-v" ++ String.ofList (d :: more)) (by simp)]
      exact ⟨_, _, .together ⟨d, by rw [String.toList_ofList]; rfl, single⟩ rest⟩
  · rw [spelled "-o" rfl]
    obtain ⟨path, others, rfl, plain⟩ := value_of_awaits nothing awaits accepted
    exact ⟨_, _, .outputApart (.inl rfl) plain others⟩
  · rw [spelled ("-o" ++ "=" ++ String.ofList value) (by simp)]
    exact ⟨_, _, .outputEqual (.inl rfl) _ rest⟩
  · rw [spelled ("-o" ++ String.ofList more) (by simp)]
    exact ⟨_, _, .outputJoined joined rest⟩

private theorem exists_spells (nothing : settings.pending = none) (option : argument ≠ "--")
    (accepted : settings.addAll (argument :: rest) = .ok final) :
    ∃ ask others, Spells (argument :: rest) ask others := by
  rw [addAll, if_neg option, bind_eq_ok] at accepted
  obtain ⟨next, added, goes⟩ := accepted
  cases exists_form argument with
  | plain plain => exact ⟨_, _, .input plain rest⟩
  | long bare =>
    rw [add_long bare] at added
    obtain ⟨_, _, absent, _⟩ | ⟨rfl, _, awaits⟩ | ⟨rfl, _, _⟩ := long_of_addLong added
    · contradiction
    · obtain ⟨path, others, rfl, plain⟩ := value_of_awaits nothing awaits goes
      exact ⟨_, _, .outputApart (.inr rfl) plain others⟩
    · exact ⟨_, _, .verbose (.inr rfl) rest⟩
  | longEqual bare value =>
    rw [add_longEqual bare] at added
    obtain ⟨rfl, _⟩ | ⟨_, present, _⟩ | ⟨_, present, _⟩ := long_of_addLong added
    · exact ⟨_, _, .outputEqual (.inr rfl) value rest⟩
    · contradiction
    · contradiction
  | short short =>
    rw [add_short short] at added
    exact exists_spells_short short nothing added goes

private theorem grant_settled {ask : Ask} (nothing : settings.pending = none)
    (granted : grant settings ask = .ok final) :
    final.pending = none := by
  cases ask with
  | input path =>
    obtain ⟨_, _, settles⟩ := bind_eq_ok.mp granted
    exact (settled_of_settle settles).1
  | output path =>
    rw [grant, attach, settle_settled nothing, ok_bind] at granted
    obtain ⟨_, used, same⟩ := bind_eq_ok.mp granted
    obtain ⟨_, rfl⟩ := use_eq_ok.mp used
    cases same
    exact nothing
  | verbose =>
    rw [grant, raiseVerbosity, settle_settled nothing, ok_bind] at granted
    obtain ⟨_, rfl⟩ := use_eq_ok.mp granted
    exact nothing

/-- Behind a bare `--` a second input is refused, so none of them has to be settled before another one. -/
theorem foldlM_addPositional (nothing : settings.pending = none) (inputs : List String) :
    (inputs.foldlM addPositional settings >>= settle) = .ok final ↔
      (inputs.map Ask.input).foldlM grant settings = .ok final := by
  have once {first waiting : Settings} {path : String} (added : first.addPositional path = .ok waiting) :
      waiting.positional = true := by
    obtain ⟨_, _, _, rfl⟩ := addPositional_eq_ok.mp added
    rfl
  have refused {waiting : Settings} (given : waiting.positional = true) (path : String) (result : Settings) :
      waiting.addPositional path ≠ .ok result := by
    intro added
    obtain ⟨free, _⟩ := addPositional_eq_ok.mp added
    rw [given] at free
    contradiction
  match inputs with
  | [] => simp [settle_settled nothing]
  | [path] => simp only [List.foldlM_cons, List.foldlM_nil, List.map_cons, List.map_nil, bind_pure, grant]
  | path :: second :: others =>
    simp only [List.foldlM_cons, List.map_cons, bind_eq_ok, grant]
    constructor
    · intro ⟨_, ⟨waiting, added, next, again, _⟩, _⟩
      exact absurd again (refused (once added) second next)
    · intro ⟨settled, ⟨waiting, added, settles⟩, _, ⟨next, again, _⟩, _⟩
      have given : settled.positional = true := (settled_of_settle settles).2.trans (once added)
      exact absurd again (refused given second next)

def size : List String → Nat
  | [] => 0
  | argument :: rest => argument.length + 1 + size rest

private theorem Spells.size_lt {ask : Ask} (spells : Spells arguments ask rest) : size rest < size arguments := by
  cases spells with
  | together short =>
    have hyphen : "-".length = 1 := rfl
    have both : "-v".length = 2 := rfl
    simp only [size, String.length_append]
    omega
  | _ =>
    simp only [size]
    omega

private theorem addAll_of_asks {asked : List Ask} (asks : Asks arguments asked) (nothing : settings.pending = none) :
    settings.addAll arguments = .ok final ↔ asked.foldlM grant settings = .ok final := by
  induction asks generalizing settings with
  | nothing => rw [addAll, settle_settled nothing]; rfl
  | separated inputs =>
    rw [addAll, if_pos rfl]
    exact foldlM_addPositional nothing inputs
  | first spells others ih =>
    rw [spells.begins settings final nothing, List.foldlM_cons, bind_eq_ok]
    apply exists_congr
    intro next
    apply and_congr_right
    intro granted
    exact ih (grant_settled nothing granted)

/-- Accepted arguments begin with a spelling, and what is left after it is accepted as well. -/
theorem asks_of_addAll : ∀ (arguments : List String) (settings : Settings), settings.pending = none →
    settings.addAll arguments = .ok final → ∃ asked, Asks arguments asked
  | [], _, _, _ => ⟨[], .nothing⟩
  | argument :: rest, settings, nothing, accepted => by
    by_cases option : argument = "--"
    · rw [option]
      exact ⟨_, .separated rest⟩
    · obtain ⟨ask, others, spells⟩ := exists_spells nothing option accepted
      have shorter := spells.size_lt
      obtain ⟨next, granted, goes⟩ := (spells.begins settings final nothing).mp accepted
      obtain ⟨asked, asks⟩ := asks_of_addAll others next (grant_settled nothing granted) goes
      exact ⟨_, .first spells asks⟩
termination_by arguments => size arguments

end Accepting

section Granting
variable {settings final : Settings} {asked : List Ask}

/-- The settings after what has been asked for so far. -/
structure Holds (settings : Settings) (asked : List Ask) : Prop where
  settled : settings.pending = none
  used : settings.used = asked.map Ask.parameter
  input : ∀ path, settings.input = some path ↔ .input path ∈ asked
  output : ∀ path, settings.output = some path ↔ .output path ∈ asked
  positional : settings.positional = true ↔ .input ∈ asked.map Ask.parameter

private theorem holds_initial : Holds initial [] := ⟨rfl, rfl, by simp [initial], by simp [initial], by simp [initial]⟩

/-- The settings with what is asked for. -/
def granted (settings : Settings) : Ask → Settings
  | .input path => { settings with input := some path, used := settings.used ++ [.input], positional := true }
  | .output path => { settings with output := some path, used := settings.used ++ [.output] }
  | .verbose => { settings with used := settings.used ++ [.verbose] }

/-- A parameter is granted once. -/
theorem Holds.grant_eq_ok (holds : Holds settings asked) {ask : Ask} {next : Settings} :
    grant settings ask = .ok next ↔ ask.parameter ∉ asked.map Ask.parameter ∧ next = granted settings ask := by
  have free := holds.positional
  rw [← holds.used] at free ⊢
  have settled := settle_settled holds.settled
  cases ask with
  | verbose =>
    rw [grant, raiseVerbosity, settled, ok_bind]
    exact use_eq_ok
  | output path =>
    rw [grant, attach, settled, ok_bind, bind_eq_ok]
    simp [use_eq_ok, granted, Ask.parameter, and_assoc, eq_comm (a := next)]
  | input path =>
    rw [grant, bind_eq_ok]
    constructor
    · intro taken
      obtain ⟨waiting, added, settles⟩ := taken
      obtain ⟨_, before, same, rfl⟩ := addPositional_eq_ok.mp added
      rw [settled] at same
      cases same
      obtain ⟨_, used, done⟩ := bind_eq_ok.mp settles
      obtain ⟨missing, rfl⟩ := use_eq_ok.mp used
      cases done
      exact ⟨missing, by simp [granted, holds.settled]⟩
    · intro possible
      obtain ⟨missing, rfl⟩ := possible
      have unpositional : settings.positional = false := by simpa using mt free.mp missing
      refine ⟨_, addPositional_eq_ok.mpr ⟨unpositional, settings, settled, rfl⟩, ?_⟩
      refine bind_eq_ok.mpr ⟨_, use_eq_ok.mpr ⟨missing, rfl⟩, ?_⟩
      simp [granted, holds.settled]

private theorem Holds.granted (holds : Holds settings asked) {ask : Ask}
    (once : ask.parameter ∉ asked.map Ask.parameter) :
    Holds (granted settings ask) (asked ++ [ask]) := by
  obtain ⟨settled, used, input, output, positional⟩ := holds
  -- A parameter that is asked for now has not been asked for with another value before.
  have fresh (other : Ask) (same : other.parameter = ask.parameter) : other ∉ asked := by
    intro member
    exact once (same ▸ List.mem_map_of_mem member)
  cases ask with
  | input path =>
    refine ⟨settled, by simp [Invocations.granted, used, Ask.parameter], ?_, ?_, by simp [Invocations.granted, Ask.parameter]⟩
    · intro other
      simp [Invocations.granted, fresh (.input other) rfl, eq_comm]
    · intro other
      simp [Invocations.granted, output other]
  | output path =>
    refine ⟨settled, by simp [Invocations.granted, used, Ask.parameter], ?_, ?_, ?_⟩
    · intro other
      simp [Invocations.granted, input other]
    · intro other
      simp [Invocations.granted, fresh (.output other) rfl, eq_comm]
    · simp [Invocations.granted, positional, Ask.parameter]
  | verbose =>
    refine ⟨settled, by simp [Invocations.granted, used, Ask.parameter], ?_, ?_, ?_⟩
    · intro other
      simp [Invocations.granted, input other]
    · intro other
      simp [Invocations.granted, output other]
    · simp [Invocations.granted, positional, Ask.parameter]

/-- All is granted where no parameter is asked for twice. -/
theorem Holds.grants (holds : Holds settings asked) (once : (asked.map Ask.parameter).Nodup) (others : List Ask) :
    (∃ final, others.foldlM grant settings = .ok final) ↔ ((asked ++ others).map Ask.parameter).Nodup := by
  induction others generalizing settings asked with
  | nil => simp [once]
  | cons ask others ih =>
    simp only [List.foldlM_cons, bind_eq_ok, holds.grant_eq_ok]
    by_cases fresh : ask.parameter ∈ asked.map Ask.parameter
    · have twice : ¬ ((asked ++ ask :: others).map Ask.parameter).Nodup := by
        intro apart
        rw [List.map_append, List.nodup_append] at apart
        exact apart.2.2 _ fresh _ (by simp) rfl
      exact iff_of_false (by simp [fresh]) twice
    · have onceMore : ((asked ++ [ask]).map Ask.parameter).Nodup := by
        rw [List.map_append, List.nodup_append]
        refine ⟨once, by simp, ?_⟩
        intro parameter member other single same
        rw [List.map_singleton, List.mem_singleton] at single
        exact fresh (single ▸ same ▸ member)
      have later := ih (holds.granted fresh) onceMore
      rw [List.append_assoc] at later
      simp only [fresh, not_false_eq_true, true_and, exists_eq_left]
      exact later

theorem Holds.foldlM (holds : Holds settings asked) {others : List Ask}
    (granted : others.foldlM grant settings = .ok final) : Holds final (asked ++ others) := by
  induction others generalizing settings asked with
  | nil =>
    cases granted
    rw [List.append_nil]
    exact holds
  | cons ask others ih =>
    rw [List.foldlM_cons] at granted
    obtain ⟨next, first, later⟩ := bind_eq_ok.mp granted
    obtain ⟨fresh, rfl⟩ := holds.grant_eq_ok.mp first
    have done := ih (holds.granted fresh) later
    rw [List.append_assoc] at done
    exact done

end Granting

section Invoking
variable {settings : Settings} {asked : List Ask} {arguments : List String} {invocation other : Invocation}

theorem Holds.makes (holds : Holds settings asked) (once : (asked.map Ask.parameter).Nodup) :
    Makes asked ⟨settings.input.getD "-", settings.output, .verbose ∈ settings.used⟩ := by
  refine ⟨once, ?_, ?_, holds.output, ?_⟩
  · intro path member
    simp [(holds.input path).mpr member]
  · intro absent
    have nothing : settings.input = none := by
      rw [Option.eq_none_iff_forall_ne_some]
      intro path given
      exact absent path ((holds.input path).mp given)
    simp [nothing]
  · have named (ask : Ask) : ask.parameter = .verbose ↔ ask = .verbose := by
      cases ask with
      | _ => simp [Ask.parameter]
    simp [holds.used, named]

/-- What is asked for makes one invocation. -/
theorem Makes.unique (makes : Makes asked invocation) (also : Makes asked other) : invocation = other := by
  have input : invocation.input = other.input := by
    by_cases given : ∃ path, Ask.input path ∈ asked
    · obtain ⟨path, member⟩ := given
      rw [makes.input path member, also.input path member]
    · have absent : ∀ path, Ask.input path ∉ asked := fun path member => given ⟨path, member⟩
      rw [makes.standardInput absent, also.standardInput absent]
  have output : invocation.output = other.output :=
    Option.ext fun path => (makes.output path).trans (also.output path).symm
  have verbose : invocation.verbose = other.verbose :=
    Bool.eq_iff_iff.mpr (makes.verbose.trans also.verbose.symm)
  cases invocation
  cases other
  simp only [Invocation.mk.injEq]
  exact ⟨input, output, verbose⟩

theorem ofArguments_eq_ok : Invocation.ofArguments arguments = .ok invocation ↔
    ∃ asked, Asks arguments asked ∧ Makes asked invocation := by
  rw [Invocation.ofArguments, bind_eq_ok]
  constructor
  · intro ⟨settings, accepted, made⟩
    cases made
    obtain ⟨asked, asks⟩ := asks_of_addAll arguments initial rfl accepted
    have granted := (addAll_of_asks asks rfl).mp accepted
    have once := (holds_initial.grants List.nodup_nil asked).mp ⟨settings, granted⟩
    exact ⟨asked, asks, (holds_initial.foldlM granted).makes once⟩
  · intro ⟨asked, asks, makes⟩
    obtain ⟨settings, granted⟩ := (holds_initial.grants List.nodup_nil asked).mpr makes.once
    have accepted := (addAll_of_asks asks rfl).mpr granted
    exact ⟨settings, accepted, congrArg Except.ok (((holds_initial.foldlM granted).makes makes.once).unique makes)⟩

end Invoking

end ChefDsl.Proofs.Invocations
