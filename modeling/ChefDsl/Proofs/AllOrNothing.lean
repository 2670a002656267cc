import ChefDsl.CommandLine.Run
import ChefDsl.Proofs.FileWrites
import ChefDsl.Proofs.Invocations

/-! A run does all of its work or nothing. Whether it succeeds is decided by its input, by the document in it and by
the place of its output, before anything is written. Only a destination that takes a part of the source and then fails
is left with that part. The log has no part in it, whatever filter is chosen. -/

namespace ChefDsl.Proofs.AllOrNothing
open CommandLine Directory FileWrites ArgumentReading Invocations Results

section Statement

/-- The text of a run's input. Bytes that are not the UTF-8 form of a text are none. -/
def Supplied (input : String) (standardInput : ByteArray) (directory : Directory) (text : String) : Prop :=
  if input = "-" then standardInput = text.toUTF8 else directory.read input = .ok text.toUTF8

/-- Standard output is open, and a file can be opened wherever a path leads but to a directory. -/
def Opens (directory : Directory) (disturbance : Disturbance) : Option String → Prop
  | none => True
  | some path => disturbance.opening = none ∧
      ∃ place, Leads directory path place ∧ node? directory place ≠ some .directory

/-- The input is read to its end and is the text of a document with this source, and the destination can be opened. -/
structure Converts (invocation : Invocation) (standardInput : ByteArray) (directory : Directory)
    (disturbance : Disturbance) (source : Text) : Prop where
  readable : disturbance.reading = none
  renders : ∃ text, Supplied invocation.input standardInput directory text ∧ Document.toSource text = .ok source
  opens : Opens directory disturbance invocation.output

/-- The source with the newline behind it, as bytes. -/
def whole (source : Text) : ByteArray := (String.ofList (source ++ ['\n'])).toUTF8

/-- What is open takes all of the source. -/
def HasRoom (disturbance : Disturbance) (source : Text) : Prop :=
  ∀ size problem, disturbance.room = some (size, problem) → (whole source).size ≤ size

/-- What the run could write is not cut off: a destination that can be opened takes all of it. -/
def Steady (invocation : Invocation) (standardInput : ByteArray) (directory : Directory) (disturbance : Disturbance) :
    Prop :=
  ∀ source, Converts invocation standardInput directory disturbance source → HasRoom disturbance source

/-- What a run brings about: its status, its output and the files, but not what it reports or logs. -/
def effect (outcome : Outcome) : Nat × ByteArray × Directory :=
  (outcome.status, outcome.standardOutput, outcome.directory)

/-- These bytes are all that is on standard output, or all that is in the output file. -/
def Delivers (output : Option String) (bytes : ByteArray) (directory : Directory) (outcome : Outcome) : Prop :=
  match output with
  | none => outcome.standardOutput = bytes ∧ outcome.directory = directory
  | some path => outcome.standardOutput = .empty ∧ ∃ entry, Replaces directory outcome.directory path entry bytes

/-- The status of a run whose destination fails while it is written. -/
def cutStatus : Option String → Nat
  | none => 101
  | some _ => 1

/-- How a run ends: with all of the source, or with nothing, or else its destination has failed behind the front of the
source. -/
structure Concludes (invocation : Invocation) (standardInput : ByteArray) (directory : Directory)
    (disturbance : Disturbance) (outcome : Outcome) : Prop where
  success : outcome.status = 0 ↔
    ∃ source, Converts invocation standardInput directory disturbance source ∧ HasRoom disturbance source
  all : ∀ source, Converts invocation standardInput directory disturbance source → HasRoom disturbance source →
    Delivers invocation.output (whole source) directory outcome
  nothing : Steady invocation standardInput directory disturbance → outcome.status ≠ 0 →
    effect outcome = (1, .empty, directory)
  front : ∀ source, Converts invocation standardInput directory disturbance source → ¬ HasRoom disturbance source →
    outcome.status = cutStatus invocation.output ∧
      ∃ size < (whole source).size, Delivers invocation.output ((whole source).extract 0 size) directory outcome

end Statement

private theorem fromUTF8?_eq_some {bytes : ByteArray} {text : String} :
    String.fromUTF8? bytes = some text ↔ bytes = text.toUTF8 := by
  unfold String.fromUTF8?
  split
  · next valid =>
    rw [Option.some.injEq, ← String.toByteArray_inj]
    rfl
  · next invalid =>
    constructor
    · intro none
      cases none
    · rintro rfl
      exact absurd text.isValidUTF8 invalid

section Conversions
variable {input text : String} {source : Text}

private theorem ofText_eq_ok :
    (Conversion.ofText input text).result = .ok source ↔ Document.toSource text = .ok source := by
  simp only [Document.toSource, Document.loadText]
  unfold Conversion.ofText
  cases Document.parse text with
  | error error => simp
  | ok document =>
    cases loaded : Document.load document with
    | error error => simp [loaded]
    | ok entity =>
      simp only [ok_bind, loaded, Conversion.ofEntity]
      cases entity.source <;> simp

private theorem ofContent_eq_ok {content : Except Problem ByteArray} :
    (Conversion.ofContent input content).result = .ok source ↔
      ∃ text : String, content = .ok text.toUTF8 ∧ Document.toSource text = .ok source := by
  cases content with
  | error problem => simp [Conversion.ofContent]
  | ok bytes =>
    simp only [Except.ok.injEq, ← fromUTF8?_eq_some, Conversion.ofContent]
    cases String.fromUTF8? bytes with
    | none => simp
    | some text => simp [ofText_eq_ok]

end Conversions

section Runs
variable {invocation : Invocation} {standardInput : ByteArray} {directory : Directory} {disturbance : Disturbance}
  {source : Text}

/-- What a run has to convert. -/
def conversionOf (invocation : Invocation) (standardInput : ByteArray) (directory : Directory)
    (disturbance : Disturbance) : Conversion :=
  .ofContent invocation.input (invocation.content standardInput directory disturbance)

private theorem content_eq_ok {bytes : ByteArray} : invocation.content standardInput directory disturbance = .ok bytes ↔
    disturbance.reading = none ∧
      (if invocation.input = "-" then standardInput = bytes else directory.read invocation.input = .ok bytes) := by
  unfold Invocation.content
  split
  · next problem found => simp [found]
  · next found =>
    split
    · simp [found]
    · simp [found]

private theorem conversionOf_eq_ok : (conversionOf invocation standardInput directory disturbance).result = .ok source ↔
    disturbance.reading = none ∧
      ∃ text, Supplied invocation.input standardInput directory text ∧ Document.toSource text = .ok source := by
  simp only [conversionOf, ofContent_eq_ok, content_eq_ok, Supplied, and_assoc, exists_and_left]

/-- What a run logs on the way. -/
def logOf (invocation : Invocation) (standardInput : ByteArray) (directory : Directory) (disturbance : Disturbance)
    (filter : Option String) : String :=
  (Filter.choose invocation.verbose filter).lines
    (conversionOf invocation standardInput directory disturbance).events

private theorem run_failed {failure : Failure}
    (fails : (conversionOf invocation standardInput directory disturbance).result = .error failure)
    (filter : Option String) : invocation.run standardInput directory disturbance filter =
      ⟨1, .empty, logOf invocation standardInput directory disturbance filter ++ failure.report, directory⟩ := by
  rw [conversionOf] at fails
  simp only [Invocation.run, fails, logOf, conversionOf]

private theorem run_converted
    (succeeds : (conversionOf invocation standardInput directory disturbance).result = .ok source)
    (filter : Option String) : invocation.run standardInput directory disturbance filter =
      deliver invocation.output source directory disturbance
        (logOf invocation standardInput directory disturbance filter) := by
  rw [conversionOf] at succeeds
  simp only [Invocation.run, succeeds, logOf, conversionOf]

end Runs

section Deliveries
variable {disturbance : Disturbance} {directory : Directory} {output : Option String} {source : Text}

private theorem deliver_effect (output : Option String) (source : Text) (directory : Directory)
    (disturbance : Disturbance) (log other : String) :
    effect (deliver output source directory disturbance log) =
      effect (deliver output source directory disturbance other) := by
  cases output with
  | none =>
    simp only [deliver]
    split
    · rfl
    · rfl
  | some path =>
    simp only [deliver]
    split
    · rfl
    · rfl

private theorem take_whole (room : HasRoom disturbance source) :
    disturbance.take (whole source) = (.ok (), whole source) := by
  unfold Disturbance.take
  split
  · next size problem found => exact if_neg (Nat.not_lt.mpr (room size problem found))
  · rfl

private theorem take_cut (cut : ¬ HasRoom disturbance source) :
    ∃ size problem, size < (whole source).size ∧
      disturbance.take (whole source) = (.error problem, (whole source).extract 0 size) := by
  simp only [HasRoom, not_forall, Nat.not_le] at cut
  obtain ⟨size, problem, found, short⟩ := cut
  refine ⟨size, problem, short, ?_⟩
  rw [Disturbance.take, found]
  exact if_pos short

/-- What the destination takes is delivered, and the status tells whether that is all. -/
theorem deliver_open (opens : Opens directory disturbance output) {result : Except Problem Unit} {taken : ByteArray}
    (takes : disturbance.take (whole source) = (result, taken)) (log : String) :
    (deliver output source directory disturbance log).status =
        (match result with
          | .ok () => 0
          | .error _ => cutStatus output) ∧
      Delivers output taken directory (deliver output source directory disturbance log) := by
  have content : (delivered source).toUTF8 = whole source := rfl
  cases output with
  | none =>
    simp only [deliver, content, takes]
    cases result with
    | ok _ => exact ⟨rfl, rfl, rfl⟩
    | error problem => exact ⟨rfl, rfl, rfl⟩
  | some path =>
    obtain ⟨opening, place, leads, free⟩ := opens
    simp only [deliver, content, write_of_leads leads free opening, takes]
    cases result with
    | ok _ => exact ⟨rfl, rfl, key place, replaces_put leads free _⟩
    | error problem => exact ⟨rfl, rfl, key place, replaces_put leads free _⟩

/-- Without a destination that can be opened nothing is left behind. -/
theorem deliver_unopened (closed : ¬ Opens directory disturbance output) (source : Text) (log : String) :
    effect (deliver output source directory disturbance log) = (1, .empty, directory) := by
  cases output with
  | none => exact absurd trivial closed
  | some path =>
    obtain ⟨problem, written⟩ := write_unopened closed (delivered source).toUTF8
    simp only [deliver, written, effect]

end Deliveries

section Outcomes
variable {arguments : List String} {asked : List Ask} {invocation : Invocation} {standardInput : ByteArray}
  {directory : Directory} {disturbance : Disturbance} {source : Text}

/-- Only its input and its output decide what a run brings about. -/
theorem run_effect {other : Invocation} (input : other.input = invocation.input)
    (output : other.output = invocation.output) (standardInput : ByteArray) (directory : Directory)
    (disturbance : Disturbance) (filter otherFilter : Option String) :
    effect (other.run standardInput directory disturbance otherFilter) =
      effect (invocation.run standardInput directory disturbance filter) := by
  have same : conversionOf other standardInput directory disturbance =
      conversionOf invocation standardInput directory disturbance := by
    simp only [conversionOf, Invocation.content, input]
  cases found : (conversionOf invocation standardInput directory disturbance).result with
  | error failure => rw [run_failed (same ▸ found), run_failed found, effect, effect]
  | ok source =>
    rw [run_converted (same ▸ found), run_converted found, output]
    exact deliver_effect ..

private theorem converts_iff : Converts invocation standardInput directory disturbance source ↔
    (conversionOf invocation standardInput directory disturbance).result = .ok source ∧
      Opens directory disturbance invocation.output := by
  rw [conversionOf_eq_ok]
  constructor
  · intro ⟨readable, renders, opens⟩
    exact ⟨⟨readable, renders⟩, opens⟩
  · intro ⟨⟨readable, renders⟩, opens⟩
    exact ⟨readable, renders, opens⟩

private theorem run_leaves_nothing (fails : ∀ source, ¬ Converts invocation standardInput directory disturbance source)
    (filter : Option String) :
    effect (invocation.run standardInput directory disturbance filter) = (1, .empty, directory) := by
  cases found : (conversionOf invocation standardInput directory disturbance).result with
  | error failure => rw [run_failed found, effect]
  | ok source =>
    rw [run_converted found]
    exact deliver_unopened (fun opens => fails source (converts_iff.mpr ⟨found, opens⟩)) source _

/-- What is converted is delivered as far as its destination takes it. -/
theorem run_converts (converts : Converts invocation standardInput directory disturbance source)
    {result : Except Problem Unit} {taken : ByteArray} (takes : disturbance.take (whole source) = (result, taken))
    (filter : Option String) :
    (invocation.run standardInput directory disturbance filter).status =
        (match result with
          | .ok () => 0
          | .error _ => cutStatus invocation.output) ∧
      Delivers invocation.output taken directory (invocation.run standardInput directory disturbance filter) := by
  obtain ⟨found, opens⟩ := converts_iff.mp converts
  rw [run_converted found]
  exact deliver_open opens takes _

private theorem run_concludes (invocation : Invocation) (standardInput : ByteArray) (directory : Directory)
    (disturbance : Disturbance) (filter : Option String) :
    Concludes invocation standardInput directory disturbance
      (invocation.run standardInput directory disturbance filter) := by
  have front (source : Text) (converts : Converts invocation standardInput directory disturbance source)
      (cut : ¬ HasRoom disturbance source) :
      (invocation.run standardInput directory disturbance filter).status = cutStatus invocation.output ∧
        ∃ size < (whole source).size, Delivers invocation.output ((whole source).extract 0 size) directory
          (invocation.run standardInput directory disturbance filter) := by
    obtain ⟨size, problem, short, takes⟩ := take_cut cut
    obtain ⟨status, delivers⟩ := run_converts converts takes filter
    exact ⟨status, size, short, delivers⟩
  have failing : cutStatus invocation.output ≠ 0 := by
    cases invocation.output with
    | none => simp [cutStatus]
    | some path => simp [cutStatus]
  by_cases possible : ∃ source, Converts invocation standardInput directory disturbance source
  · obtain ⟨source, converts⟩ := possible
    refine ⟨?_, ?_, ?_, front⟩
    · constructor
      · intro ended
        refine ⟨source, converts, ?_⟩
        by_contra cut
        exact failing ((front source converts cut).1.symm.trans ended)
      · intro ⟨other, also, room⟩
        exact (run_converts also (take_whole room) filter).1
    · intro other also room
      exact (run_converts also (take_whole room) filter).2
    · intro steady failed
      exact absurd (run_converts converts (take_whole (steady source converts)) filter).1 failed
  · have none (source : Text) : ¬ Converts invocation standardInput directory disturbance source :=
      fun converts => possible ⟨source, converts⟩
    have nothing := run_leaves_nothing none filter
    have status : (invocation.run standardInput directory disturbance filter).status = 1 := congrArg Prod.fst nothing
    refine ⟨?_, fun source converts => absurd converts (none source), fun _ _ => nothing, front⟩
    rw [status]
    exact iff_of_false (by simp) fun ⟨source, converts, _⟩ => none source converts

private theorem run_made (asks : Asks arguments asked) (makes : Makes asked invocation) (standardInput : ByteArray)
    (directory : Directory) (disturbance : Disturbance) (filter : Option String) :
    run arguments standardInput directory disturbance filter =
      invocation.run standardInput directory disturbance filter := by
  rw [run, ofArguments_eq_ok.mpr ⟨asked, asks, makes⟩]

/-- The arguments of a run are accepted in the spellings of an input, an output and verbosity, and in no others. The run
ends well exactly if its input is the text of a document, its destination can be opened and there is room for the
document's source. Then all of the source is delivered. Otherwise nothing is left behind, unless the destination takes
the front of the source before it fails. Runs with the same input and output have the same effect, however verbose they
are and whatever they log. -/
theorem run_all_or_nothing (asks : Asks arguments asked) (makes : Makes asked invocation) (standardInput : ByteArray)
    (directory : Directory) (disturbance : Disturbance) (filter : Option String) :
    Concludes invocation standardInput directory disturbance
        (run arguments standardInput directory disturbance filter) ∧
      (∀ others other, Invocation.ofArguments others = .ok other ↔
        ∃ otherAsked, Asks others otherAsked ∧ Makes otherAsked other) ∧
      ∀ others otherAsked other otherFilter, Asks others otherAsked → Makes otherAsked other →
        other.input = invocation.input → other.output = invocation.output →
          effect (run others standardInput directory disturbance otherFilter) =
            effect (run arguments standardInput directory disturbance filter) := by
  rw [run_made asks makes]
  refine ⟨run_concludes invocation standardInput directory disturbance filter, fun _ _ => ofArguments_eq_ok, ?_⟩
  intro others otherAsked other otherFilter also made input output
  rw [run_made also made]
  exact run_effect input output standardInput directory disturbance filter otherFilter

def documentText : String := "\x7b\"name\": \"web\", \"chef_type\": \"role\"\x7d"

/-- Two files and a directory, in which a document is to be replaced by its own source. -/
def workplace : Directory :=
  [("web", .file documentText.toUTF8), ("notes", .file "kept".toUTF8), ("roles", .directory)]

def inPlace : Invocation := ⟨"web", some "roles/../web", true⟩

private theorem converts_workplace : ∃ source, Converts inPlace "unread".toUTF8 workplace .calm source := by
  have found : (Document.toSource documentText).toOption.isSome = true := by decide +kernel
  obtain ⟨source, given⟩ := Option.isSome_iff_exists.mp found
  have supplied : Supplied "web" "unread".toUTF8 workplace documentText := rfl
  have free : node? workplace ["web"] ≠ some .directory := by simp [workplace, node?, key]
  exact ⟨source, rfl, ⟨documentText, supplied, eq_ok_of_toOption given⟩, rfl, ["web"], ⟨_, rfl, rfl⟩, free⟩

theorem run_all_or_nothing_in_place :
    Asks ["-vo", "roles/../web", "web"] [.verbose, .output "roles/../web", .input "web"] ∧
      Makes [.verbose, .output "roles/../web", .input "web"] inPlace ∧
      ∃ source, Converts inPlace "unread".toUTF8 workplace .calm source ∧ HasRoom .calm source ∧
        Delivers (some "roles/../web") (whole source) workplace
          (run ["-vo", "roles/../web", "web"] "unread".toUTF8 workplace .calm (some "trace")) ∧
        effect (run ["web", "--output=roles/../web"] "unread".toUTF8 workplace .calm none) =
          effect (run ["-vo", "roles/../web", "web"] "unread".toUTF8 workplace .calm (some "trace")) := by
  have web : IsPlain "web" := .inr (by simp)
  have path : IsPlain "roles/../web" := .inr (by simp)
  have asks : Asks ["-vo", "roles/../web", "web"] [.verbose, .output "roles/../web", .input "web"] :=
    .first (@Spells.together "o" ⟨'o', rfl, by simp⟩ _)
      (.first (.outputApart (.inl rfl) path _) (.first (.input web _) .nothing))
  have quiet : Asks ["web", "--output=roles/../web"] [.input "web", .output "roles/../web"] :=
    .first (.input web _) (.first (@Spells.outputEqual "--output" (.inr rfl) "roles/../web" _) .nothing)
  have makes : Makes [.verbose, .output "roles/../web", .input "web"] inPlace := by
    refine ⟨by simp [Ask.parameter], ?_, ?_, ?_, by simp [inPlace]⟩
    · intro path member
      simpa [inPlace, eq_comm] using member
    · intro absent
      exact absurd (by simp) (absent "web")
    · intro path
      simp [inPlace, eq_comm]
  have makesQuiet : Makes [.input "web", .output "roles/../web"] ⟨"web", some "roles/../web", false⟩ := by
    refine ⟨by simp [Ask.parameter], ?_, ?_, ?_, by simp⟩
    · intro path member
      simpa [eq_comm] using member
    · intro absent
      exact absurd (by simp) (absent "web")
    · intro path
      simp [eq_comm]
  obtain ⟨concludes, _, alike⟩ := run_all_or_nothing asks makes "unread".toUTF8 workplace .calm (some "trace")
  obtain ⟨source, converts⟩ := converts_workplace
  have room : HasRoom .calm source := by
    intro size problem short
    cases short
  exact ⟨asks, makes, source, converts, room, concludes.all source converts room,
    alike _ _ _ none quiet makesQuiet rfl rfl⟩

end Outcomes

end ChefDsl.Proofs.AllOrNothing
