import ChefDsl.Proofs.RoleBuilding

/-! The order of changes. A role or an environment is known by the last change to each of its fields and by its map, and
the map by the order in which its keys come first and by the last change under each key. So changes of different kinds
may trade places, and a key that is given again keeps its place and takes the new value. -/

namespace ChefDsl

attribute [ext] Role Environment

end ChefDsl

namespace ChefDsl.Proofs.ChangeOrder
open Settings

section Statement
variable {σ γ φ α : Type}

/-- The last value that the changes set, or none if they set none. -/
def lastSet (set? : γ → Option φ) (changes : List γ) : Option φ := (changes.filterMap set?).getLast?

/-- Sequences of changes that leave the same behind build the same thing, and it has a source. The map in it has its
keys where they come first, each with its last value. Changes of different kinds may trade places. -/
structure OrderFree (build : List γ → σ) (source : σ → Except Error Text) (entries : σ → Entries α)
    (put? : γ → Option (String × α)) (SameChanges : List γ → List γ → Prop) (kind : γ → Nat) : Prop where
  alike : ∀ first second, SameChanges first second → build first = build second ∧
    ∃ text, source (build first) = .ok text ∧ source (build second) = .ok text
  kept : ∀ changes, FirstAndLast (entries (build changes)) (changes.filterMap put?)
  commute : ∀ before first second after, kind first ≠ kind second →
    build (before ++ first :: second :: after) = build (before ++ second :: first :: after)

end Statement

section Fields
variable {σ γ φ α : Type} {apply : σ → γ → σ} {first second : List γ}

private theorem field_alike {field : σ → φ} {set? : γ → Option φ}
    (step : ∀ built change, field (apply built change) = (set? change).getD (field built))
    (same : lastSet set? first = lastSet set? second) (built : σ) :
    field (first.foldl apply built) = field (second.foldl apply built) := by
  rw [lastSet, lastSet] at same
  rw [field_foldl field set? step, field_foldl field set? step, List.getLastD_eq_getLast?, List.getLastD_eq_getLast?,
    same]

private theorem field_unchanged {field : σ → φ} (step : ∀ built change, field (apply built change) = field built)
    (built : σ) (changes : List γ) : field (changes.foldl apply built) = field built := by
  rw [field_foldl field (fun _ => none) step, List.filterMap_none]
  rfl

/-- It is enough to know what two neighbouring changes do, where the entries go and that everything has a source. -/
theorem orderFree_foldl {source : σ → Except Error Text} {entries : σ → Entries α} {put? : γ → Option (String × α)}
    {SameChanges : List γ → List γ → Prop} {kind : γ → Nat} {start : σ}
    (alike : ∀ first second, SameChanges first second → first.foldl apply start = second.foldl apply start)
    (writes : ∀ built, ∃ text, source built = .ok text)
    (puts : ∀ changes : List γ, entries (changes.foldl apply start) = Entries.ofPairs (changes.filterMap put?))
    (exchange : ∀ first second built, kind first ≠ kind second →
      apply (apply built first) second = apply (apply built second) first) :
    OrderFree (List.foldl apply start) source entries put? SameChanges kind := by
  refine ⟨?_, ?_, ?_⟩
  · intro first second same
    obtain ⟨text, written⟩ := writes (second.foldl apply start)
    rw [alike first second same]
    exact ⟨rfl, text, written, written⟩
  · intro changes
    rw [puts]
    exact firstAndLast_ofPairs _
  · intro before first second after apart
    rw [List.foldl_append, List.foldl_append, List.foldl_cons, List.foldl_cons, exchange first second _ apart]
    rfl

end Fields

section Roles
open Role (Change apply build named)
open RoleBuilding

def roleDescription? : Change → Option String
  | .description text => some text
  | _ => none

def roleDefaults? : Change → Option Attributes
  | .defaultAttributes attributes => some attributes
  | _ => none

def roleOverrides? : Change → Option Attributes
  | .overrideAttributes attributes => some attributes
  | _ => none

/-- Each field is set to the same value last, or by neither, and the lists by environment are the same. -/
structure SameRoleChanges (first second : List Change) : Prop where
  description : lastSet roleDescription? first = lastSet roleDescription? second
  defaultAttributes : lastSet roleDefaults? first = lastSet roleDefaults? second
  overrideAttributes : lastSet roleOverrides? first = lastSet roleOverrides? second
  runList : lastSet globalList? first = lastSet globalList? second
  envRunLists : SameEntries (first.filterMap environmentList?) (second.filterMap environmentList?)

private theorem role_exchange (first second : Change) (role : Role) (apart : first.ctorIdx ≠ second.ctorIdx) :
    (role.apply first).apply second = (role.apply second).apply first := by
  cases first <;> cases second <;> first | rfl | exact absurd rfl apart

private theorem role_alike (name : String) {first second : List Change} (same : SameRoleChanges first second) :
    build name first = build name second := by
  have start (changes : List Change) : (build name changes).name = name := by
    apply field_unchanged
    intro role change
    cases change <;> rfl
  refine Role.ext ((start first).trans (start second).symm) ?_ ?_ ?_ ?_ ?_
  · apply field_alike _ same.description
    intro role change
    cases change <;> rfl
  · apply field_alike _ same.defaultAttributes
    intro role change
    cases change <;> rfl
  · apply field_alike _ same.overrideAttributes
    intro role change
    cases change <;> rfl
  · exact field_alike runList_apply same.runList (named name)
  · rw [envRunLists_build, envRunLists_build]
    exact ofPairs_eq_iff.mpr same.envRunLists

end Roles

section Environments
open Environment (Change apply build named)

def environmentDescription? : Change → Option String
  | .description text => some text
  | _ => none

def environmentDefaults? : Change → Option Attributes
  | .defaultAttributes attributes => some attributes
  | _ => none

def environmentOverrides? : Change → Option Attributes
  | .overrideAttributes attributes => some attributes
  | _ => none

def constraint? : Change → Option (String × String)
  | .cookbook name constraint => some (name, constraint)
  | _ => none

/-- Each field is set to the same value last, or by neither, and the constraints are the same. -/
structure SameEnvironmentChanges (first second : List Change) : Prop where
  description : lastSet environmentDescription? first = lastSet environmentDescription? second
  defaultAttributes : lastSet environmentDefaults? first = lastSet environmentDefaults? second
  overrideAttributes : lastSet environmentOverrides? first = lastSet environmentOverrides? second
  cookbookVersions : SameEntries (first.filterMap constraint?) (second.filterMap constraint?)

private theorem environment_exchange (first second : Change) (environment : Environment)
    (apart : first.ctorIdx ≠ second.ctorIdx) :
    (environment.apply first).apply second = (environment.apply second).apply first := by
  cases first <;> cases second <;> first | rfl | exact absurd rfl apart

private theorem cookbookVersions_build (name : String) (changes : List Change) :
    (build name changes).cookbookVersions = Entries.ofPairs (changes.filterMap constraint?) := by
  apply entries_foldl
  intro environment change
  cases change <;> rfl

private theorem environment_alike (name : String) {first second : List Change}
    (same : SameEnvironmentChanges first second) :
    build name first = build name second := by
  have start (changes : List Change) : (build name changes).name = name := by
    apply field_unchanged
    intro environment change
    cases change <;> rfl
  refine Environment.ext ((start first).trans (start second).symm) ?_ ?_ ?_ ?_
  · apply field_alike _ same.description
    intro environment change
    cases change <;> rfl
  · rw [cookbookVersions_build, cookbookVersions_build]
    exact ofPairs_eq_iff.mpr same.cookbookVersions
  · apply field_alike _ same.defaultAttributes
    intro environment change
    cases change <;> rfl
  · apply field_alike _ same.overrideAttributes
    intro environment change
    cases change <;> rfl

end Environments

/-- What a role or an environment is, down to the order of its maps and the text of its file, depends on the order of
changes only through the last change to each field and the order in which the keys of its map come first. -/
theorem order_free (name : String) :
    OrderFree (Role.build name) Role.source Role.envRunLists RoleBuilding.environmentList? SameRoleChanges
        Role.Change.ctorIdx ∧
      OrderFree (Environment.build name) Environment.source Environment.cookbookVersions constraint?
        SameEnvironmentChanges Environment.Change.ctorIdx := by
  constructor
  · apply orderFree_foldl
    · exact fun _ _ => role_alike name
    · exact fun role => ⟨_, SourceText.role_source role⟩
    · exact fun changes => RoleBuilding.envRunLists_build changes name
    · exact role_exchange
  · apply orderFree_foldl
    · exact fun _ _ => environment_alike name
    · exact fun environment => ⟨_, SourceText.environment_source environment⟩
    · exact cookbookVersions_build name
    · exact environment_exchange

section Shuffled

/-- A list is given for an environment before and after one for another, and the description twice. -/
def draftedRole : List Role.Change :=
  [.envRunList "production" [], .description "draft", .envRunList "testing" [⟨.recipe, "curl", none⟩],
    .defaultAttributes [("port", .unsigned 80)], .envRunList "production" [⟨.role, "base", none⟩],
    .description "front", .runList [⟨.recipe, "nginx", some "1.2"⟩]]

def revisedRole : List Role.Change :=
  [.runList [⟨.recipe, "nginx", some "1.2"⟩], .envRunList "production" [⟨.role, "base", none⟩],
    .defaultAttributes [("port", .unsigned 80)], .envRunList "testing" [⟨.recipe, "curl", none⟩],
    .description "front"]

def draftedEnvironment : List Environment.Change :=
  [.cookbook "nginx" "= 1.0", .overrideAttributes [], .cookbook "apt" ">= 2.0", .cookbook "nginx" "= 1.2"]

def revisedEnvironment : List Environment.Change :=
  [.cookbook "nginx" "= 1.2", .cookbook "apt" ">= 2.0", .overrideAttributes []]

theorem order_free_shuffled :
    SameRoleChanges draftedRole revisedRole ∧ SameEnvironmentChanges draftedEnvironment revisedEnvironment ∧
      Role.build "web" draftedRole = Role.build "web" revisedRole ∧
      (Role.build "web" draftedRole).envRunLists.map Prod.fst = ["production", "testing"] ∧
      (Role.build "web" draftedRole).envRunLists.lookup "production" = some [⟨.role, "base", none⟩] ∧
      Environment.build "web" draftedEnvironment = Environment.build "web" revisedEnvironment ∧
      (Environment.build "web" draftedEnvironment).cookbookVersions = [("nginx", "= 1.2"), ("apt", ">= 2.0")] := by
  have sameRole : SameRoleChanges draftedRole revisedRole := ⟨rfl, rfl, rfl, rfl, ofPairs_eq_iff.mp rfl⟩
  have sameEnvironment : SameEnvironmentChanges draftedEnvironment revisedEnvironment :=
    ⟨rfl, rfl, rfl, ofPairs_eq_iff.mp rfl⟩
  obtain ⟨roles, environments⟩ := order_free "web"
  have kept := roles.kept draftedRole
  have keys : (draftedRole.filterMap RoleBuilding.environmentList? |>.map Prod.fst).eraseDups =
      ["production", "testing"] := by
    decide
  refine ⟨sameRole, sameEnvironment, (roles.alike _ _ sameRole).1, kept.keys.trans keys, kept.values "production", ?_, rfl⟩
  exact (environments.alike _ _ sameEnvironment).1

end Shuffled

end ChefDsl.Proofs.ChangeOrder
