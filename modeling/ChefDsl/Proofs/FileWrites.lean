import ChefDsl.CommandLine.Directory
import ChefDsl.Proofs.Results

/-! Writing a file changes that file and no other. A path leads through directories to a place, and a write leaves
every directory what it was, so all paths lead where they led before. -/

namespace ChefDsl.Proofs.FileWrites
open CommandLine Directory Results
variable {directory : Directory} {place other : Place} {path : String} {content : ByteArray}

/-- A path leads to a place. One that ends in a slash leads only to a directory. -/
def Leads (directory : Directory) (path : String) (place : Place) : Prop :=
  ∃ parts, Path.ofString path = .ok parts ∧
    follow directory parts.start (parts.names ++ if parts.slash then ["."] else []) = .ok place

/-- A path leads to what is entered in the directory under a name. -/
def Names (directory : Directory) (path entry : String) : Prop :=
  ∃ place, Leads directory path place ∧ key place = entry

theorem Leads.unique (leads : Leads directory path place) (also : Leads directory path other) : place = other := by
  obtain ⟨parts, split, follows⟩ := leads
  obtain ⟨others, same, twin⟩ := also
  cases split.symm.trans same
  exact Except.ok.inj (follows.symm.trans twin)

section Nodes

/-- What stands at a place is fixed for the places outside, and entered in the directory for all others. -/
theorem node?_cases (place : Place) :
    (∀ directory, node? directory place = some .directory) ∨
      ∀ directory, node? directory place = directory.lookup (key place) := by
  unfold node?
  split
  · exact Or.inl fun _ => rfl
  · exact Or.inl fun _ => rfl
  · exact Or.inl fun _ => rfl
  · exact Or.inr fun _ => rfl

private theorem node?_put_self (free : node? directory place ≠ some .directory) (node : Node) :
    node? (directory.put (key place) node) place = some node := by
  rcases node?_cases place with fixed | entered
  · exact absurd (fixed directory) free
  · rw [entered, Entries.lookup_put, if_pos rfl]

private theorem node?_put_of_ne {entry : String} (apart : key place ≠ entry) (node : Node) :
    node? (directory.put entry node) place = node? directory place := by
  rcases node?_cases place with fixed | entered
  · rw [fixed, fixed]
  · rw [entered, entered, Entries.lookup_put, if_neg apart]

/-- Whatever is entered in the place of something else than a directory, the directories stay what they are. -/
theorem node?_put_directory (free : node? directory place ≠ some .directory) (content : ByteArray) (other : Place) :
    node? (directory.put (key place) (.file content)) other = some .directory ↔
      node? directory other = some .directory := by
  rcases node?_cases other with fixed | entered
  · rw [fixed, fixed]
  · by_cases same : key other = key place
    · rcases node?_cases place with outside | inside
      · exact absurd (outside directory) free
      · rw [inside] at free
        rw [entered, entered, same, Entries.lookup_put, if_pos rfl]
        simp [free]
    · rw [node?_put_of_ne same]

end Nodes

section Ways
variable {first second : Directory}

/-- Two directories in which the same ways are open: the same places are directories. -/
def SameWays (first second : Directory) : Prop :=
  ∀ place, node? first place = some .directory ↔ node? second place = some .directory

private theorem enter_blocked (name : String) (blocked : node? directory place ≠ some .directory) :
    ∃ problem, enter directory place name = .error problem := by
  unfold enter
  split
  · exact ⟨_, rfl⟩
  · exact ⟨_, rfl⟩
  · next open_ => exact absurd open_ blocked

private theorem enter_open {name : String} (free : node? first place = some .directory)
    (also : node? second place = some .directory) : enter first place name = enter second place name := by
  simp only [enter, free, also]

theorem SameWays.enter (same : SameWays first second) {name : String} :
    enter first place name = .ok other ↔ enter second place name = .ok other := by
  by_cases free : node? first place = some .directory
  · rw [enter_open free ((same place).mp free)]
  · obtain ⟨problem, stops⟩ := enter_blocked name free
    obtain ⟨trouble, halts⟩ := enter_blocked name (mt (same place).mpr free)
    simp [stops, halts]

theorem SameWays.follow (same : SameWays first second) (names : List String) :
    follow first place names = .ok other ↔ follow second place names = .ok other := by
  induction names generalizing place with
  | nil => rfl
  | cons name rest ih =>
    simp only [Directory.follow, List.foldlM_cons, bind_eq_ok] at ih ⊢
    simp only [same.enter, ih]

theorem SameWays.leads (same : SameWays first second) : Leads first path place ↔ Leads second path place := by
  simp only [Leads, same.follow]

theorem SameWays.names (same : SameWays first second) {entry : String} :
    Names first path entry ↔ Names second path entry := by
  simp only [Names, same.leads]

end Ways

section Effects

private theorem read_eq_ok :
    directory.read path = .ok content ↔
      ∃ place, Leads directory path place ∧ node? directory place = some (.file content) := by
  simp only [Directory.read, bind_eq_ok, Leads]
  constructor
  · rintro ⟨parts, split, place, follows, found⟩
    refine ⟨place, ⟨parts, split, follows⟩, ?_⟩
    split at found
    · cases found
    · cases found
    · next bytes file =>
      cases found
      exact file
  · rintro ⟨place, ⟨parts, split, follows⟩, file⟩
    exact ⟨parts, split, place, follows, by simp only [file, pure_eq_ok]⟩

private theorem enter_dot (steps : enter directory place "." = .ok other) :
    other = place ∧ node? directory place = some .directory := by
  by_cases free : node? directory place = some .directory
  · simp only [enter, free, ↓reduceIte, Except.ok.injEq] at steps
    exact ⟨steps.symm, free⟩
  · obtain ⟨problem, stops⟩ := enter_blocked "." free
    rw [stops] at steps
    cases steps

private theorem start_directory {parts : Path} (split : Path.ofString path = .ok parts) (directory : Directory) :
    node? directory parts.start = some .directory := by
  unfold Path.ofString at split
  split at split
  · cases split
  · split at split
    · cases split
    · cases split
      dsimp only
      split <;> rfl

/-- A place that is no directory is reached by one step behind all others. -/
theorem leads_iff_last {parts : Path} (split : Path.ofString path = .ok parts)
    (free : node? directory place ≠ some .directory) :
    Leads directory path place ↔ ∃ parent, follow directory parts.start parts.names.dropLast = .ok parent ∧
      enter directory parent (if parts.slash then "." else parts.names.getLast?.getD ".") = .ok place := by
  have same : Leads directory path place ↔
      follow directory parts.start (parts.names ++ if parts.slash then ["."] else []) = .ok place := by
    simp [Leads, split]
  rw [same]
  by_cases slash : parts.slash = true
  · -- Both ways end with the step that asks for a directory.
    have stay (parent : Place) : enter directory parent "." ≠ .ok place := by
      intro steps
      obtain ⟨rfl, found⟩ := enter_dot steps
      exact free found
    simp [slash, Directory.follow, List.foldlM_append, bind_eq_ok, stay]
  · rcases List.eq_nil_or_concat parts.names with empty | ⟨init, last, names⟩
    · have stay : parts.start ≠ place := by
        rintro rfl
        exact free (start_directory split directory)
      have still : enter directory parts.start "." ≠ .ok place := by
        intro steps
        exact stay (enter_dot steps).1.symm
      simp [slash, empty, Directory.follow, stay, still]
    · simp [slash, names, Directory.follow, List.foldlM_append, bind_eq_ok]

private theorem destination_eq_ok : directory.destination path = .ok place ↔
    Leads directory path place ∧ node? directory place ≠ some .directory := by
  simp only [Directory.destination, bind_eq_ok]
  constructor
  · intro ⟨parts, split, parent, follows, reached, enters, done⟩
    split at done
    · cases done
    · next free =>
      cases done
      exact ⟨(leads_iff_last split free).mpr ⟨parent, follows, enters⟩, free⟩
  · intro ⟨leads, free⟩
    have ⟨parts, split, _⟩ := leads
    obtain ⟨parent, follows, enters⟩ := (leads_iff_last split free).mp leads
    refine ⟨parts, split, parent, follows, place, enters, ?_⟩
    split
    · next found => exact absurd found free
    · rfl

/-- A file that can be opened gets what it takes of the content. -/
theorem write_of_leads {disturbance : Disturbance} (leads : Leads directory path place)
    (free : node? directory place ≠ some .directory) (opens : disturbance.opening = none) (content : ByteArray) :
    directory.write path content disturbance =
      ((disturbance.take content).1, directory.put (key place) (.file (disturbance.take content).2)) := by
  rw [Directory.write, destination_eq_ok.mpr ⟨leads, free⟩, opens]

/-- A file that cannot be opened stays what it was, and so do all others. -/
theorem write_unopened {disturbance : Disturbance}
    (closed : ¬ (disturbance.opening = none ∧
      ∃ place, Leads directory path place ∧ node? directory place ≠ some .directory)) (content : ByteArray) :
    ∃ problem, directory.write path content disturbance = (.error problem, directory) := by
  unfold Directory.write
  split
  · exact ⟨_, rfl⟩
  · exact ⟨_, rfl⟩
  · next place found opens => exact absurd ⟨opens, place, destination_eq_ok.mp found⟩ closed

/-- All that is different afterwards is the file to which a path leads: it has the given content, whichever path it is
read by, and all other files are what they were. -/
structure Replaces (before after : Directory) (path entry : String) (content : ByteArray) : Prop where
  names : Names before path entry
  reads : after.read path = .ok content
  twins : ∀ other, Names before other entry → ∀ bytes, before.read other = .ok bytes → after.read other = .ok content
  entries : ∀ other, other ≠ entry → after.lookup other = before.lookup other
  others : ∀ other, ¬ Names before other entry → ∀ bytes, after.read other = .ok bytes ↔ before.read other = .ok bytes

private theorem sameWays_put (free : node? directory place ≠ some .directory) (content : ByteArray) :
    SameWays (directory.put (key place) (.file content)) directory :=
  node?_put_directory free content

theorem replaces_put (leads : Leads directory path place) (free : node? directory place ≠ some .directory)
    (content : ByteArray) :
    Replaces directory (directory.put (key place) (.file content)) path (key place) content := by
  have ways := sameWays_put free content
  refine ⟨⟨place, leads, rfl⟩, ?_, ?_, ?_, ?_⟩
  · exact read_eq_ok.mpr ⟨place, ways.leads.mpr leads, node?_put_self free _⟩
  · rintro other ⟨reached, way, same⟩ bytes reads
    obtain ⟨file, also, found⟩ := read_eq_ok.mp reads
    cases also.unique way
    have inside : node? directory reached ≠ some .directory := by simp [found]
    rw [← same]
    exact read_eq_ok.mpr ⟨reached, (sameWays_put inside content).leads.mpr way, node?_put_self inside _⟩
  · intro other apart
    rw [Entries.lookup_put, if_neg apart]
  · intro other elsewhere bytes
    simp only [read_eq_ok, ways.leads]
    refine exists_congr fun reached => and_congr_right fun way => ?_
    have apart : key reached ≠ key place := fun same => elsewhere ⟨reached, way, same⟩
    rw [node?_put_of_ne apart]

end Effects

end ChefDsl.Proofs.FileWrites
