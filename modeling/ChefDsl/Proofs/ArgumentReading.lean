import ChefDsl.CommandLine.Arguments
import ChefDsl.Proofs.Results
import ChefDsl.Proofs.TextLines

/-! How one argument is read. It is a long option, some letters, or plain. A value that is an argument of its own is
settled only when the next argument is looked at, which for accepted arguments is the same as at once. -/

namespace ChefDsl.Proofs.ArgumentReading
open CommandLine Settings Results TextLines

/-- The argument is no option: it begins with no hyphen, or is nothing but one. -/
def IsPlain (argument : String) : Prop := argument = "-" ∨ argument.toList.head? ≠ some '-'

/-- The text has a first character, and it is another one. -/
def StartsOtherwise (c : Char) (text : String) : Prop := ∃ first ∈ text.toList.head?, first ≠ c

section Settling
variable {α : Type} {settings settled : Settings}

/-- A reading that settles first what is pending: it succeeds exactly if it succeeds from there. -/
def Settles (reading : Settings → Settings.Result α) : Prop :=
  ∀ settings result, settings.pending ≠ some (.output none) →
    (reading settings = .ok result ↔ ∃ settled, settings.settle = .ok settled ∧ reading settled = .ok result)

theorem settle_settled (nothing : settings.pending = none) : settings.settle = .ok settings := by
  rw [settle, nothing]

theorem use_eq_ok {parameter : Parameter} : settings.use parameter = .ok settled ↔
    parameter ∉ settings.used ∧ settled = { settings with used := settings.used ++ [parameter] } := by
  unfold use
  split
  · next used => simp [used]
  · next free => simp [free, eq_comm]

theorem settled_of_settle (settles : settings.settle = .ok settled) :
    settled.pending = none ∧ settled.positional = settings.positional := by
  unfold settle at settles
  split at settles
  · next nothing =>
    cases settles
    exact ⟨nothing, rfl⟩
  · obtain ⟨_, used, same⟩ := bind_eq_ok.mp settles
    obtain ⟨_, rfl⟩ := use_eq_ok.mp used
    cases same
    exact ⟨rfl, rfl⟩
  · cases settles
  · obtain ⟨_, used, same⟩ := bind_eq_ok.mp settles
    obtain ⟨_, rfl⟩ := use_eq_ok.mp used
    cases same
    exact ⟨rfl, rfl⟩

private theorem settles_then (next : Settings → Settings.Result α) :
    Settles fun settings => settings.settle >>= next := by
  intro settings result _
  show (settings.settle >>= next) = .ok result ↔
    ∃ settled, settings.settle = .ok settled ∧ (settled.settle >>= next) = .ok result
  rw [bind_eq_ok]
  apply exists_congr
  intro settled
  apply and_congr_right
  intro settles
  rw [settle_settled (settled_of_settle settles).1]
  rfl

private theorem settles_never {reading : Settings → Settings.Result α}
    (fails : ∀ settings result, reading settings ≠ .ok result) : Settles reading := by
  intro settings result _
  simp [fails]

theorem Settles.andThen {β : Type} {reading : Settings → Settings.Result α} (settles : Settles reading)
    (next : α → Settings.Result β) : Settles fun settings => reading settings >>= next := by
  intro settings result complete
  simp only [bind_eq_ok, settles settings _ complete]
  constructor
  · intro ⟨middle, ⟨settled, found, reads⟩, goes⟩
    exact ⟨settled, found, middle, reads, goes⟩
  · intro ⟨settled, found, middle, reads, goes⟩
    exact ⟨middle, ⟨settled, found, reads⟩, goes⟩

theorem Settles.congr {reading other : Settings → Settings.Result α} (settles : Settles other)
    (same : ∀ settings, settings.pending ≠ some (.output none) → reading settings = other settings) :
    Settles reading := by
  intro settings result complete
  rw [same settings complete, settles settings result complete]
  apply exists_congr
  intro settled
  apply and_congr_right
  intro settles
  rw [same settled (by simp [(settled_of_settle settles).1])]

theorem addPositional_eq_ok {argument : String} {next : Settings} : settings.addPositional argument = .ok next ↔
    settings.positional = false ∧ ∃ settled, settings.settle = .ok settled ∧
      next = { settled with pending := some (.input argument), positional := true } := by
  unfold addPositional
  split
  · next positional => simp [positional]
  · next free =>
    rw [bind_eq_ok]
    simp [free, eq_comm (a := next)]

private theorem settles_addPositional (argument : String) :
    Settles fun settings => settings.addPositional argument := by
  intro settings result _
  simp only [addPositional_eq_ok]
  constructor
  · intro ⟨free, settled, settles, same⟩
    obtain ⟨nothing, kept⟩ := settled_of_settle settles
    exact ⟨settled, settles, kept.trans free, settled, settle_settled nothing, same⟩
  · intro ⟨settled, settles, free, again, twice, same⟩
    obtain ⟨nothing, kept⟩ := settled_of_settle settles
    rw [settle_settled nothing] at twice
    cases twice
    exact ⟨kept.symm.trans free, settled, settles, same⟩

private theorem settles_addShort (c : Char) (letters : List Char) :
    Settles fun settings => settings.addShort (c :: letters) := by
  simp only [addShort]
  split
  · exact (settles_then fun settled => settled.use .verbose).andThen fun next => next.addShort letters
  split
  · exact settles_then fun _ => throw .help
  split
  · split
    · exact settles_then _
    · exact settles_then _
    · exact settles_then _
  · exact settles_never (by simp)

private theorem settles_addLong (name : String) (value : Option String) :
    Settles fun settings => settings.addLong name value := by
  unfold addLong
  split
  · exact settles_then _
  · exact settles_then _
  · exact settles_never (by simp)
  · exact settles_then fun _ => throw .help
  · exact settles_then _
  · split
    · exact settles_never (by simp)
    · exact settles_never (by simp)

/-- Without an option that waits for its value a plain argument is an input. -/
theorem addPlain_complete (complete : settings.pending ≠ some (.output none)) (argument : String) :
    settings.addPlain argument = settings.addPositional argument := by
  unfold addPlain
  split
  · next missing => exact absurd missing complete
  · rfl

private theorem settles_addPlain (argument : String) : Settles fun settings => settings.addPlain argument :=
  (settles_addPositional argument).congr fun _ complete => addPlain_complete complete argument

private theorem settles_add (argument : String) : Settles fun settings => settings.add argument := by
  unfold add
  split
  · split
    · exact settles_addLong _ _
    · exact settles_addLong _ _
  · exact settles_addShort _ _
  · exact settles_addPlain argument

private theorem settles_settle : Settles Settings.settle := by
  have settles := settles_then (pure : Settings → Settings.Result Settings)
  simp only [bind_pure] at settles
  exact settles

/-- Arguments are accepted exactly if they are accepted after what is pending. -/
theorem settles_addAll (arguments : List String) : Settles fun settings => settings.addAll arguments := by
  cases arguments with
  | nil => exact settles_settle
  | cons argument rest =>
    simp only [addAll]
    split
    · cases rest with
      | nil => exact settles_settle
      | cons path rest =>
        simp only [List.foldlM_cons, bind_assoc]
        exact (settles_addPositional path).andThen _
    · exact (settles_add argument).andThen fun next => next.addAll rest

end Settling

section Forms
variable {settings final : Settings} {argument : String} {rest : List String}

/-- How an argument is taken apart. -/
inductive Form : String → Prop where
  | long {name : String} (bare : '=' ∉ name.toList) : Form ("--" ++ name)
  | longEqual {name : String} (bare : '=' ∉ name.toList) (value : String) : Form ("--" ++ name ++ "=" ++ value)
  | short {letters : String} (short : StartsOtherwise '-' letters) : Form ("-" ++ letters)
  | plain {argument : String} (plain : IsPlain argument) : Form argument

private theorem form_long (word : Text) : Form ("--" ++ String.ofList word) := by
  have bare := notMem_takeWhile '=' word
  have whole := List.takeWhile_append_dropWhile (p := (· != '=')) (l := word)
  generalize word.takeWhile (· != '=') = name at bare whole
  rcases dropWhile_mark '=' word with nothing | ⟨value, behind⟩
  · rw [nothing, List.append_nil] at whole
    rw [← whole]
    exact .long (by simpa using bare)
  · have split : "--" ++ String.ofList word = "--" ++ String.ofList name ++ "=" ++ String.ofList value := by
      rw [behind] at whole
      exact String.toList_inj.mp (by simp [← whole])
    rw [split]
    exact .longEqual (by simpa using bare) (String.ofList value)

theorem exists_form (argument : String) : Form argument := by
  cases split : argument.toList with
  | nil => exact .plain (.inr (by simp [split]))
  | cons c rest =>
    have whole : argument = String.ofList (c :: rest) := by rw [← split, String.ofList_toList]
    by_cases hyphen : c = '-'
    · subst hyphen
      cases rest with
      | nil => exact .plain (.inl whole)
      | cons d word =>
        by_cases second : d = '-'
        · have long : argument = "--" ++ String.ofList word := by
            rw [whole, second]
            exact String.toList_inj.mp (by simp)
          rw [long]
          exact form_long word
        · have short : argument = "-" ++ String.ofList (d :: word) := by
            rw [whole]
            exact String.toList_inj.mp (by simp)
          rw [short]
          exact .short ⟨d, by rw [String.toList_ofList]; rfl, second⟩
    · exact .plain (.inr (by simpa [split] using hyphen))

theorem ne_separator {argument : String} (other : argument.toList ≠ ['-', '-']) : argument ≠ "--" := by
  rintro rfl
  exact other rfl

theorem isPlain_ne {path : String} (plain : IsPlain path) : path ≠ "--" := by
  rintro rfl
  simp [IsPlain] at plain

theorem add_plain {path : String} (plain : IsPlain path) (settings : Settings) :
    settings.add path = settings.addPlain path := by
  rcases plain with rfl | visible
  · rfl
  · unfold add
    split
    · next opening => simp [opening] at visible
    · next opening => simp [opening] at visible
    · rfl

theorem add_short {letters : String} (short : StartsOtherwise '-' letters) (settings : Settings) :
    settings.add ("-" ++ letters) = settings.addShort letters.toList := by
  obtain ⟨c, first, single⟩ := short
  obtain ⟨rest, split⟩ := List.head?_eq_some_iff.mp first
  have opening : ("-" ++ letters).toList = '-' :: c :: rest := by simp [split]
  rw [add, opening, split]
  simp

theorem add_long {name : String} (bare : '=' ∉ name.toList) (settings : Settings) :
    settings.add ("--" ++ name) = settings.addLong name none := by
  have opening : ("--" ++ name).toList = '-' :: '-' :: (name.toList ++ []) := by simp
  have inside := bne_of_notMem bare
  have stop : ∀ c ∈ ([] : Text).head?, (c != '=') = false := by simp
  rw [add, opening]
  simp only [takeWhile_boundary inside stop, dropWhile_boundary inside stop, String.ofList_toList]

theorem add_longEqual {name : String} (bare : '=' ∉ name.toList) (value : String) (settings : Settings) :
    settings.add ("--" ++ name ++ "=" ++ value) = settings.addLong name (some value) := by
  have opening : ("--" ++ name ++ "=" ++ value).toList = '-' :: '-' :: (name.toList ++ '=' :: value.toList) := by simp
  have inside := bne_of_notMem bare
  have stop : ∀ c ∈ ('=' :: value.toList).head?, (c != '=') = false := by simp
  rw [add, opening]
  simp only [takeWhile_boundary inside stop, dropWhile_boundary inside stop, String.ofList_toList]

theorem addShort_verbose (letters : List Char) (settings : Settings) :
    settings.addShort ('v' :: letters) = settings.raiseVerbosity >>= fun next => next.addShort letters := rfl

theorem add_awaits {option : String} (named : option = "-o" ∨ option = "--output") (settings : Settings) :
    settings.add option = settings.awaitOutput := by
  rcases named with rfl | rfl
  · exact @add_short "o" ⟨'o', rfl, by simp⟩ settings
  · exact @add_long "output" (by simp) settings

end Forms

section Accepting
variable {settings final : Settings} {rest : List String}

private theorem askHelp_ne_ok (settings final : Settings) : settings.askHelp ≠ .ok final := by
  unfold askHelp
  cases settings.settle with
  | error refusal => simp
  | ok settled => simp [throw, throwThe, MonadExceptOf.throw]

/-- The long options that are accepted. -/
theorem long_of_addLong {name : String} {value : Option String} (added : settings.addLong name value = .ok final) :
    (name = "output" ∧ ∃ path, value = some path ∧ settings.attach path = .ok final) ∨
      (name = "output" ∧ value = none ∧ settings.awaitOutput = .ok final) ∨
      (name = "verbose" ∧ value = none ∧ settings.raiseVerbosity = .ok final) := by
  by_cases output : name = "output"
  · subst output
    cases value with
    | none => exact .inr (.inl ⟨rfl, rfl, added⟩)
    | some path => exact .inl ⟨rfl, path, rfl, added⟩
  by_cases verbose : name = "verbose"
  · subst verbose
    cases value with
    | none => exact .inr (.inr ⟨rfl, rfl, added⟩)
    | some value => cases added
  by_cases help : name = "help"
  · subst help
    cases value with
    | none => exact absurd added (askHelp_ne_ok settings final)
    | some value => cases added
  have unknown : longNames.lookup name = none := by
    rw [List.lookup_eq_none_iff]
    simp [longNames, output, verbose, help]
  simp only [addLong, unknown] at added
  split at added
  · cases added
  · cases added

/-- The short options that are accepted, with the letters behind the first one. -/
theorem short_of_addShort {c : Char} {letters : List Char} (added : settings.addShort (c :: letters) = .ok final) :
    (c = 'v' ∧ ∃ next, settings.raiseVerbosity = .ok next ∧ next.addShort letters = .ok final) ∨
      (c = 'o' ∧ letters = [] ∧ settings.awaitOutput = .ok final) ∨
      (c = 'o' ∧ ∃ value, letters = '=' :: value ∧ settings.attach (String.ofList value) = .ok final) ∨
      (c = 'o' ∧ StartsOtherwise '=' (String.ofList letters) ∧ settings.attach (String.ofList letters) = .ok final) := by
  unfold addShort at added
  split at added
  · next same => exact .inl ⟨same, bind_eq_ok.mp added⟩
  split at added
  · exact absurd added (askHelp_ne_ok settings final)
  split at added
  · next same =>
    split at added
    · exact .inr (.inl ⟨same, rfl, added⟩)
    · exact .inr (.inr (.inl ⟨same, _, rfl, added⟩))
    · next nonempty unequal =>
      refine .inr (.inr (.inr ⟨same, ?_, added⟩))
      cases letters with
      | nil => exact absurd rfl nonempty
      | cons d value =>
        refine ⟨d, by rw [String.toList_ofList]; rfl, ?_⟩
        rintro rfl
        exact unequal value rfl
  · cases added

section Waiting
variable (waiting : settings.pending = some (.output none))
include waiting

private theorem settle_waiting : settings.settle = .error (.fault .missingValue) := by rw [settle, waiting]

private theorem addLong_waiting (name : String) (value : Option String) : settings.addLong name value ≠ .ok final := by
  intro added
  have fails := settle_waiting waiting
  obtain ⟨_, _, _, attached⟩ | ⟨_, _, awaits⟩ | ⟨_, _, raised⟩ := long_of_addLong added
  · simp [attach, fails] at attached
  · simp [awaitOutput, fails] at awaits
  · simp [raiseVerbosity, fails] at raised

private theorem addShort_waiting (c : Char) (letters : List Char) : settings.addShort (c :: letters) ≠ .ok final := by
  intro added
  have fails := settle_waiting waiting
  obtain ⟨_, _, raised, _⟩ | ⟨_, _, awaits⟩ | ⟨_, _, _, attached⟩ | ⟨_, _, attached⟩ := short_of_addShort added
  · simp [raiseVerbosity, fails] at raised
  · simp [awaitOutput, fails] at awaits
  · simp [attach, fails] at attached
  · simp [attach, fails] at attached

private theorem isPlain_of_waiting {argument : String} (added : settings.add argument = .ok final) :
    IsPlain argument := by
  cases exists_form argument with
  | plain plain => exact plain
  | long bare =>
    rw [add_long bare] at added
    exact absurd added (addLong_waiting waiting _ _)
  | longEqual bare value =>
    rw [add_longEqual bare] at added
    exact absurd added (addLong_waiting waiting _ _)
  | short short =>
    rw [add_short short] at added
    obtain ⟨c, first, _⟩ := short
    obtain ⟨letters, split⟩ := List.head?_eq_some_iff.mp first
    rw [split] at added
    exact absurd added (addShort_waiting waiting c letters)

/-- An option that waits for its value takes a plain argument and nothing else. -/
theorem plain_of_waiting (accepted : settings.addAll rest = .ok final) :
    ∃ path others, rest = path :: others ∧ IsPlain path := by
  have fails := settle_waiting waiting
  cases rest with
  | nil => simp [addAll, fails] at accepted
  | cons argument others =>
    rw [addAll] at accepted
    split at accepted
    · -- Behind a bare separator nothing is a value of an option any more.
      cases others with
      | nil => simp [fails] at accepted
      | cons path others =>
        obtain ⟨_, folded, _⟩ := bind_eq_ok.mp accepted
        obtain ⟨_, added, _⟩ := bind_eq_ok.mp folded
        obtain ⟨_, settled, settles, _⟩ := addPositional_eq_ok.mp added
        rw [fails] at settles
        contradiction
    · obtain ⟨next, added, _⟩ := bind_eq_ok.mp accepted
      exact ⟨argument, others, rfl, isPlain_of_waiting waiting added⟩

end Waiting

end Accepting

end ChefDsl.Proofs.ArgumentReading
