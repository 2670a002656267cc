import ChefDsl.Document
import ChefDsl.Proofs.CanonicalValues
import ChefDsl.Proofs.Results
import Mathlib.Data.Nat.Init

/-! A text that repeats a key gives the key its last value, so the keys of every object that is read are different.
Each reader of a container keeps this, given that the reader of the members does. -/

namespace ChefDsl.Proofs.ParsedKeys
open Json UniqueKeys CanonicalValues Results

/-- All documents that a reader gives have different keys. -/
def ReadsKeyed (read : Reader) : Prop := ∀ text step, read text = .ok step → KeyedJson step.value

theorem faultAt_ne_ok {α : Type} {text unread : Text} {cause : Cause} {step : Step α text} :
    faultAt cause unread ≠ .ok step := by
  intro same
  cases same

private theorem value_of_found {α : Type} {text rest : Text} {value : α} {left : rest <:+ text} {step : Step α text}
    (given : found value left = .ok step) : step.value = value := by
  cases given
  rfl

theorem map_eq_ok {α β : Type} {first second : Text} {reading : Reading α first} {change : Step α first → Step β second}
    {step : Step β second} (given : reading.map change = .ok step) :
    ∃ before, reading = .ok before ∧ change before = step := by
  cases reading with
  | error fault => cases given
  | ok before => exact ⟨before, rfl, Except.ok.inj given⟩

section Containers
variable {whole text : Text} {read : Reader}

private theorem keyed_readItems (reads : ReadsKeyed read) {before : List Json} {left : text <:+ whole}
    {step : Step (List Json) whole} (given : readItems read before text left = .ok step)
    (keyed : ∀ item ∈ before, KeyedJson item) : ∀ item ∈ step.value, KeyedJson item := by
  fun_induction readItems read before text left with
  | case2 =>
    rw [value_of_found given]
    intro item member
    exact keyed item (List.mem_reverse.mp member)
  | case4 => cases given
  | case5 before text left _ rest _ item next _ _ _ ih =>
    apply ih given
    intro other member
    rcases List.mem_cons.mp member with rfl | earlier
    · exact reads _ item next
    · exact keyed other earlier
  | _ => exact absurd given faultAt_ne_ok

private theorem keyed_readList (reads : ReadsKeyed read) {step : Step (List Json) text}
    (given : readList read text = .ok step) : KeyedJson (.array step.value) := by
  rw [keyedJson_array]
  unfold readList at given
  split at given
  · exact absurd given faultAt_ne_ok
  · split at given
    · rw [value_of_found given]
      simp
    · obtain ⟨item, first, rest⟩ := bind_eq_ok.mp given
      apply keyed_readItems reads rest
      intro other member
      rw [List.mem_singleton.mp member]
      exact reads text item first

private theorem keyed_readMember (reads : ReadsKeyed read) {step : Step (String × Json) text}
    (given : readMember read text = .ok step) : KeyedJson step.value.2 := by
  unfold readMember at given
  split at given
  · obtain ⟨key, _, given⟩ := bind_eq_ok.mp given
    split at given
    · exact absurd given faultAt_ne_ok
    · split at given
      · obtain ⟨value, read, given⟩ := bind_eq_ok.mp given
        cases given
        exact reads _ value read
      · exact absurd given faultAt_ne_ok
  · exact absurd given faultAt_ne_ok

private theorem keyed_put {entries : Entries Json} (keyed : KeyedJson (.object entries)) (key : String) {value : Json}
    (single : KeyedJson value) : KeyedJson (.object (entries.put key value)) := by
  obtain ⟨unique, values⟩ := keyedJson_object.mp keyed
  refine keyedJson_object.mpr ⟨unique.put key value, ?_⟩
  intro entry member
  rcases mem_put member with inside | rfl
  · exact values entry inside
  · exact single

private theorem keyed_readEntries (reads : ReadsKeyed read) {before : Entries Json} {left : text <:+ whole}
    {step : Step (Entries Json) whole} (given : readEntries read before text left = .ok step)
    (keyed : KeyedJson (.object before)) : KeyedJson (.object step.value) := by
  fun_induction readEntries read before text left with
  | case2 =>
    rw [value_of_found given]
    exact keyed
  | case5 => cases given
  | case6 before text left _ _ _ _ member next _ _ _ ih =>
    exact ih given (keyed_put keyed member.value.1 (keyed_readMember reads next))
  | _ => exact absurd given faultAt_ne_ok

private theorem keyed_readObject (reads : ReadsKeyed read) {step : Step (Entries Json) text}
    (given : readObject read text = .ok step) : KeyedJson (.object step.value) := by
  unfold readObject at given
  split at given
  · exact absurd given faultAt_ne_ok
  · split at given
    · rw [value_of_found given]
      exact keyedJson_object.mpr ⟨List.nodup_nil, by simp⟩
    · obtain ⟨member, first, rest⟩ := bind_eq_ok.mp given
      refine keyed_readEntries reads rest (keyedJson_object.mpr ⟨by simp [Entries.Unique], ?_⟩)
      simpa using keyed_readMember reads first

end Containers

private theorem readWord_value {word text : Text} {value : Json} {step : Step Json text}
    (given : readWord word value text = .ok step) : step.value = value := by
  fun_induction readWord word value text with
  | case1 => exact value_of_found given
  | case3 _ _ _ ih =>
    obtain ⟨before, word, rfl⟩ := map_eq_ok given
    exact ih word
  | _ => exact absurd given faultAt_ne_ok

/-- A value has different keys if the values that are read inside it have. -/
theorem keyed_readValue {depth : Nat} (inner : ∀ fewer, depth = fewer + 1 → ReadsKeyed (readValue fewer)) :
    ReadsKeyed (readValue depth) := by
  have word {rest text : Text} {letters : Text} {value : Json} {left : rest <:+ text} {step : Step Json text}
      (given : (readWord letters value rest).map (·.extend left) = .ok step) : step.value = value := by
    obtain ⟨before, read, rfl⟩ := map_eq_ok given
    exact (readWord_value read : before.value = value)
  intro text step
  -- The cases left to the last alternative end in a fault.
  fun_cases readValue depth text with
  | case2 | case3 | case4 =>
    intro given
    rw [word given]
    rfl
  | case5 =>
    intro given
    obtain ⟨before, _, rfl⟩ := map_eq_ok given
    rfl
  | case7 rest _ depth =>
    intro given
    obtain ⟨before, read, rfl⟩ := map_eq_ok given
    exact keyed_readList (inner depth rfl) read
  | case9 rest _ depth =>
    intro given
    obtain ⟨before, read, rfl⟩ := map_eq_ok given
    exact keyed_readObject (inner depth rfl) read
  | case10 =>
    intro given
    obtain ⟨before, _, rfl⟩ := map_eq_ok given
    exact keyedJson_number before.value
  | _ =>
    intro given
    exact absurd given faultAt_ne_ok

private theorem reads_readValue (depth : Nat) : ReadsKeyed (readValue depth) := by
  induction depth with
  | zero => exact keyed_readValue fun fewer none => absurd none (by omega)
  | succ depth ih => exact keyed_readValue fun fewer same => Nat.succ.inj same ▸ ih

theorem mapError_eq_ok {ε δ α : Type} {result : Except ε α} {change : ε → δ} {value : α}
    (given : result.mapError change = .ok value) : result = .ok value := by
  cases result with
  | error error => cases given
  | ok other => exact congrArg Except.ok (Except.ok.inj given)

/-- The keys of every object in a parsed document are different. -/
theorem keyed_of_parse {text : String} {document : Json} (parsed : Document.parse text = .ok document) :
    KeyedJson document := by
  have read : readDocument text.toList = .ok document := mapError_eq_ok (mapError_eq_ok parsed)
  obtain ⟨step, value, rest⟩ := bind_eq_ok.mp read
  split at rest
  · cases rest
    exact reads_readValue depthBound text.toList step value
  · cases rest

end ChefDsl.Proofs.ParsedKeys
