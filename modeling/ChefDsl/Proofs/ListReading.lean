import ChefDsl.Proofs.NumberReading

/-! Lists read back member by member. It is enough that each member reads back in front of whatever may follow a
literal, for the reader passes over the blanks between the members and in front of the closing character. -/

namespace ChefDsl.Proofs.ListReading
open SourceReader NumberReading

/-- The characters that a literal begins with. -/
def opensLiteral (c : Char) : Bool :=
  isWordChar c || c == '-' || c == '\'' || c == '"' || c == '[' || c == '\x7b'

private theorem ne_of_opensLiteral {c other : Char} (opens : opensLiteral c = true)
    (never : opensLiteral other = false) :
    c ≠ other := by
  rintro rfl
  rw [opens] at never
  contradiction

private theorem isWhitespace_of_opensLiteral {c : Char} (opens : opensLiteral c = true) : c.isWhitespace = false := by
  by_cases blank : c.isWhitespace = true
  · simp only [Char.isWhitespace, Bool.or_eq_true, decide_eq_true_eq] at blank
    rcases blank with ((rfl | rfl) | rfl) | rfl <;> contradiction
  · simpa using blank

def Blank (text : Text) : Prop := ∀ c ∈ text, c.isWhitespace = true

theorem skipLayout_blank {gap : Text} (blank : Blank gap) (text : Text) :
    skipLayout (gap ++ text) = skipLayout text := by
  induction gap with
  | nil => rfl
  | cons c gap ih =>
    have white := blank c (by simp)
    have plain : c ≠ '#' := by
      rintro rfl
      exact absurd white (by decide)
    rw [List.cons_append, skipLayout, if_neg plain, if_pos white]
    exact ih fun other member => blank other (by simp [member])

theorem skipLayout_opens {c : Char} (opens : opensLiteral c = true) (text : Text) :
    skipLayout (c :: text) = c :: text := by
  have plain : c ≠ '#' := ne_of_opensLiteral opens rfl
  have visible : ¬ c.isWhitespace = true := by simp [isWhitespace_of_opensLiteral opens]
  rw [skipLayout, if_neg plain, if_neg visible]

private theorem skipLayout_ends {c : Char} (ends : endsLiteral c = true) (visible : c ≠ '\n') (text : Text) :
    skipLayout (c :: text) = c :: text := by
  rcases eq_of_endsLiteral ends with rfl | rfl | rfl | rfl | rfl
  · simp [skipLayout]
  · simp [skipLayout]
  · simp [skipLayout]
  · simp [skipLayout]
  · contradiction

section Lists
variable {α : Type} {read : Text → Option (α × Text)} {closing : Char} {gap tail rest : Text}

/-- The text of a member reads back as its value, after any blanks and in front of all that may follow. -/
structure Reads (read : Text → Option (α × Text)) (text : Text) (value : α) : Prop where
  opens : ∃ c more, text = c :: more ∧ opensLiteral c = true
  reads : ∀ gap rest, Blank gap → Ends rest → read (gap ++ (text ++ rest)) = some (value, rest)

/-- A character that closes a list. -/
structure Closes (closing : Char) : Prop where
  ends : endsLiteral closing = true
  visible : closing ≠ '\n'
  final : closing ≠ ','

private theorem Closes.ne_of_opens {c : Char} (closes : Closes closing) (opens : opensLiteral c = true) :
    c ≠ closing := by
  apply ne_of_opensLiteral opens
  rcases eq_of_endsLiteral closes.ends with rfl | rfl | rfl | rfl | rfl <;> decide

private theorem readMembers_last {text more : Text} {member : α} (found : read text = some (member, rest))
    (closed : skipLayout rest = closing :: more) (count : Nat) :
    readMembers read closing (count + 1) text = some ([member], more) := by
  simp [readMembers, found, closed]

private theorem readMembers_more {text more : Text} {member : α} {members : List α} {count : Nat}
    (found : read text = some (member, rest)) (separated : skipLayout rest = ',' :: more) (final : closing ≠ ',')
    (others : readMembers read closing count more = some (members, tail)) :
    readMembers read closing (count + 1) text = some (member :: members, tail) := by
  simp [readMembers, found, separated, Ne.symm final, others]

private theorem readMembers_intercalate {parts : List (Text × α)} (nonempty : parts ≠ [])
    (each : ∀ part ∈ parts, Reads read part.1 part.2) (closes : Closes closing) (blank : Blank gap)
    (after : Blank tail) (ends : Ends (tail ++ closing :: rest)) (lead : Text) (before : Blank lead) (count : Nat)
    (enough : parts.length ≤ count) :
    readMembers read closing count
        (lead ++ ((',' :: gap).intercalate (parts.map Prod.fst) ++ (tail ++ closing :: rest))) =
      some (parts.map Prod.snd, rest) := by
  -- Only the first member comes after `lead`; the gap of the separator takes its place for all the others.
  induction parts generalizing lead count with
  | nil => contradiction
  | cons part parts ih =>
    obtain ⟨count, rfl⟩ : ∃ fewer, count = fewer + 1 :=
      Nat.exists_eq_add_one_of_ne_zero (by simp at enough; omega)
    have first := (each part (by simp)).reads
    cases parts with
    | nil =>
      have found := first lead _ before ends
      have closed : skipLayout (tail ++ closing :: rest) = closing :: rest := by
        rw [skipLayout_blank after, skipLayout_ends closes.ends closes.visible]
      simpa using readMembers_last found closed count
    | cons next parts =>
      have others := ih (by simp) (fun other member => each other (by simp [member])) gap blank count
        (by simpa using enough)
      have comma (text : Text) : Ends (',' :: text) := by simp [Ends, endsLiteral]
      have found (text : Text) := first lead _ before (comma text)
      have separated (text : Text) : skipLayout (',' :: text) = ',' :: text :=
        skipLayout_ends rfl (by decide) text
      have step := readMembers_more (found _) (separated _) closes.final others
      simpa [List.intercalate_cons_cons] using step

private theorem length_le_intercalate {parts : List Text} (separator : Text) (visible : ∀ part ∈ parts, part ≠ []) :
    parts.length ≤ (separator.intercalate parts).length := by
  induction parts with
  | nil => simp
  | cons part parts ih =>
    have first := List.length_pos_iff.mpr (visible part (by simp))
    have others := ih fun other member => visible other (by simp [member])
    cases parts with
    | nil => simpa using Nat.succ_le_of_lt first
    | cons next parts =>
      simp only [List.intercalate_cons_cons, List.length_append, List.length_cons] at others ⊢
      omega

theorem length_le_intercalate_of_mem (separator : Text) {member : Text} {members : List Text}
    (inside : member ∈ members) : member.length ≤ (separator.intercalate members).length := by
  induction members with
  | nil => contradiction
  | cons first rest ih =>
    cases rest with
    | nil => simp [List.mem_singleton.mp inside]
    | cons next rest =>
      rw [List.intercalate_cons_cons, List.length_append, List.length_append]
      rcases List.mem_cons.mp inside with rfl | later
      · omega
      · have within := ih later
        omega

/-- Members on lines of their own read back in order. -/
theorem readList_members {parts : List (Text × α)} (nonempty : parts ≠ [])
    (each : ∀ part ∈ parts, Reads read part.1 part.2) (closes : Closes closing) (blank : Blank gap)
    (after : Blank tail) (ends : Ends (tail ++ closing :: rest)) :
    readList read closing (gap ++ ((',' :: gap).intercalate (parts.map Prod.fst) ++ (tail ++ closing :: rest))) =
      some (parts.map Prod.snd, rest) := by
  have visible : ∀ text ∈ parts.map Prod.fst, text ≠ [] := by
    intro text member
    obtain ⟨part, inside, rfl⟩ := List.mem_map.mp member
    obtain ⟨c, more, split, _⟩ := (each part inside).opens
    simp [split]
  have enough := length_le_intercalate (',' :: gap) visible
  have reads := readMembers_intercalate nonempty each closes blank after ends [] (by simp [Blank])
  rw [List.length_map] at enough
  generalize written : (',' :: gap).intercalate (parts.map Prod.fst) ++ (tail ++ closing :: rest) = body at reads
  have begins : ∃ c more, body = c :: more ∧ opensLiteral c = true := by
    obtain ⟨part, parts, rfl⟩ := List.exists_cons_of_ne_nil nonempty
    obtain ⟨c, more, split, opens⟩ := (each part (by simp)).opens
    subst written
    cases parts with
    | nil => exact ⟨c, _, by simp [split]; rfl, opens⟩
    | cons next parts => exact ⟨c, _, by simp [split, List.intercalate_cons_cons]; rfl, opens⟩
  obtain ⟨c, more, split, opens⟩ := begins
  have long : parts.length ≤ (gap ++ body).length := by
    rw [← written, List.length_append, List.length_append]
    omega
  rw [readList, skipLayout_blank blank, split, skipLayout_opens opens]
  simp only [closes.ne_of_opens opens, ↓reduceIte]
  rw [← split]
  exact reads _ long

theorem readList_empty (after : Blank tail) (closes : Closes closing) :
    readList read closing (tail ++ closing :: rest) = some ([], rest) := by
  rw [readList, skipLayout_blank after, skipLayout_ends closes.ends closes.visible]
  simp

end Lists

end ChefDsl.Proofs.ListReading
