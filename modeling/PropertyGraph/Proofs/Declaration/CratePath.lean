import PropertyGraph.Declaration.Manifest
import PropertyGraph.Declaration.Token

/-!
# Paths of crates by the rules

A crate is reached by its own name where a table of dependencies lists it, and by its module in the
facade where the table lists the facade alone; the dependencies come before those for development,
and a crate that none of the two leads to is reached by its own name. These rules speak of what a
table lists, however it is written. What is looked at are the tables with headers only: by them the
rules are followed always, and by all tables exactly if those between braces do not matter for
whether the facade is used.

A path that is read from a text is refused where the text is no path. That of a crate is read from
names, and where these are identifiers it is never refused.
-/
namespace PropertyGraph

namespace ManifestItem

/-- The keys of a table, however it is written. -/
def keys : ManifestItem → List String
  | value => []
  | inlineTable entries => entries.map (·.1)
  | table entries => entries.map (·.1)

/-- The item is a table between braces. -/
def isInline : ManifestItem → Bool
  | inlineTable _ => true
  | _ => false

end ManifestItem

namespace Manifest

/-! ## The rules -/

/-- The table of a name has the key, however it is written. -/
def Lists (manifest : Manifest) (table key : String) : Prop :=
  ∃ item, manifest.items.lookup table = some item ∧ key ∈ item.keys

/-- The table of a name is not written between braces, and has the key. -/
def ListsUnderHeader (manifest : Manifest) (table key : String) : Prop :=
  ∃ item, manifest.items.lookup table = some item ∧ item.isInline = false ∧ key ∈ item.keys

/-- A module of the facade stands for the crate of the name. -/
def IsModule (name inside : String) : Prop :=
  name = "vc_" ++ inside

/-- The rules for the path of a crate, where some tables are still to be looked at and it is told
what a table lists. -/
inductive Follows (lists : String → String → Prop) (name : String) :
    List String → List String → Prop
  /-- A crate that is listed is reached by its name. -/
  | direct {table : String} {later : List String} (listed : lists table name) :
    Follows lists name (table :: later) [name]
  /-- A crate of the family is reached through the facade that is listed in its stead. -/
  | throughFacade {table inside : String} {later : List String} (unlisted : ¬ lists table name)
    (isModule : IsModule name inside) (listed : lists table facade) :
    Follows lists name (table :: later) [facade, inside]
  /-- A table that lists neither is passed over. -/
  | later {table : String} {later path : List String} (unlisted : ¬ lists table name)
    (without : ∀ inside, IsModule name inside → ¬ lists table facade)
    (follows : Follows lists name later path) : Follows lists name (table :: later) path
  /-- Without any table that helps, the crate is reached by its name. -/
  | fallback : Follows lists name [] [name]

/-- The rules lead through the facade. -/
def UsesFacade (lists : String → String → Prop) (name : String) : Prop :=
  ∃ inside, Follows lists name dependencyTables [facade, inside]

section

variable {lists others : String → String → Prop} {name : String}
  {tables path other : List String}

/-- The rules lead to one path only. -/
theorem Follows.unique (left : Follows lists name tables path)
    (right : Follows lists name tables other) : path = other := by
  induction left with
  | direct listed =>
    cases right with
    | direct _ => rfl
    | throughFacade unlisted _ _ => exact absurd listed unlisted
    | later unlisted _ _ => exact absurd listed unlisted
  | throughFacade unlisted isModule listed =>
    cases right with
    | direct there => exact absurd there unlisted
    | throughFacade _ again _ =>
      rw [(String.append_right_inj "vc_").1 (isModule.symm.trans again)]
    | later _ without _ => exact absurd listed (without _ isModule)
  | later unlisted without _ ih =>
    cases right with
    | direct listed => exact absurd listed unlisted
    | throughFacade _ isModule listed => exact absurd listed (without _ isModule)
    | later _ _ follows => exact ih follows
  | fallback =>
    cases right
    rfl

/-- A path by the rules is the name, or leads to the module of the name in the facade. -/
theorem Follows.eq_or (follows : Follows lists name tables path) :
    path = [name] ∨ ∃ inside, IsModule name inside ∧ path = [facade, inside] := by
  induction follows with
  | direct _ => exact .inl rfl
  | throughFacade _ isModule _ => exact .inr ⟨_, isModule, rfl⟩
  | later _ _ _ ih => exact ih
  | fallback => exact .inl rfl

/-- The rules lead to a path, whatever the tables list. -/
theorem exists_follows (lists : String → String → Prop) (name : String) (tables : List String) :
    ∃ path, Follows lists name tables path := by
  induction tables with
  | nil => exact ⟨_, .fallback⟩
  | cons table later ih =>
    by_cases listed : lists table name
    · exact ⟨_, .direct listed⟩
    by_cases offered : ∃ inside, IsModule name inside ∧ lists table facade
    · obtain ⟨inside, isModule, offered⟩ := offered
      exact ⟨_, .throughFacade listed isModule offered⟩
    · obtain ⟨path, follows⟩ := ih
      exact ⟨path, .later listed (fun inside isModule there => offered ⟨inside, isModule, there⟩)
        follows⟩

/-- The rules speak only of what the tables list. -/
theorem Follows.congr (same : ∀ table ∈ tables, ∀ key, lists table key ↔ others table key)
    (follows : Follows lists name tables path) : Follows others name tables path := by
  induction follows with
  | direct listed => exact .direct ((same _ List.mem_cons_self _).1 listed)
  | throughFacade unlisted isModule listed =>
    have here := same _ List.mem_cons_self
    exact .throughFacade (mt (here _).2 unlisted) isModule ((here _).1 listed)
  | later unlisted without _ ih =>
    have here := same _ List.mem_cons_self
    exact .later (mt (here _).2 unlisted)
      (fun inside isModule => mt (here _).2 (without inside isModule))
      (ih fun table among => same table (List.mem_cons_of_mem _ among))
  | fallback => exact .fallback

/-- The rules lead through the facade if the path that they lead to does. -/
theorem Follows.usesFacade_iff (follows : Follows lists name dependencyTables path) :
    UsesFacade lists name ↔ ∃ inside, path = [facade, inside] := by
  constructor
  · rintro ⟨inside, through⟩
    exact ⟨inside, follows.unique through⟩
  · rintro ⟨inside, rfl⟩
    exact ⟨inside, follows⟩

/-- Two ways to tell what the tables list lead to one path exactly if both or none of them lead
through the facade. -/
theorem Follows.follows_iff (follows : Follows others name dependencyTables path) :
    Follows lists name dependencyTables path ↔
      (UsesFacade lists name ↔ UsesFacade others name) := by
  obtain ⟨told, leads⟩ := exists_follows lists name dependencyTables
  rw [leads.usesFacade_iff, follows.usesFacade_iff]
  constructor
  · intro both
    rw [leads.unique both]
  · intro alike
    suffices same : told = path from same ▸ leads
    rcases leads.eq_or with rfl | ⟨inside, isModule, rfl⟩ <;>
      rcases follows.eq_or with rfl | ⟨there, isModule', rfl⟩
    · rfl
    · obtain ⟨_, through⟩ := alike.2 ⟨there, rfl⟩
      cases through
    · obtain ⟨_, through⟩ := alike.1 ⟨inside, rfl⟩
      cases through
    · rw [(String.append_right_inj "vc_").1 (isModule.symm.trans isModule')]

end

/-! ## What is looked at -/

/-- The module of a crate in the facade is what follows the mark of the family. -/
theorem facadeModule?_eq_some_iff {name inside : String} :
    facadeModule? name = some inside ↔ IsModule name inside := by
  have mark : familyMark = "vc_".toList := rfl
  rw [facadeModule?, IsModule, ← String.toList_inj, String.toList_append, ← mark]
  split
  · next begins =>
    obtain ⟨rest, whole⟩ := List.isPrefixOf_iff_prefix.1 begins
    rw [← whole, List.drop_left, List.append_right_inj, Option.some.injEq, ← String.toList_inj,
      String.toList_ofList]
  · next differs =>
    simp only [reduceCtorEq, false_iff]
    exact fun whole => differs (List.isPrefixOf_iff_prefix.2 ⟨_, whole.symm⟩)

/-- The entries of a table that is looked at have the keys that it lists under a header. -/
theorem listsUnderHeader_iff {manifest : Manifest} {table key : String} :
    manifest.ListsUnderHeader table key ↔
      ∃ entries, (manifest.items.lookup table).bind ManifestItem.headed? = some entries ∧
        (entries.lookup key).isSome = true := by
  have found (entries : NameTable ManifestItem) :
      (entries.lookup key).isSome = true ↔ key ∈ entries.map (·.1) := by
    rw [List.lookup_isSome_iff, List.mem_map]
    exact exists_congr fun entry => and_congr_right fun _ => beq_iff_eq.trans eq_comm
  rw [ListsUnderHeader]
  cases manifest.items.lookup table with
  | none => simp
  | some item =>
    cases item <;> simp [ManifestItem.headed?, ManifestItem.isInline, ManifestItem.keys, found]

/-- What is found in the tables follows the rules by what they list under headers. -/
theorem follows_findSome? (manifest : Manifest) (name : String) (tables : List String) :
    Follows manifest.ListsUnderHeader name tables
      ((tables.findSome? fun key => ((manifest.items.lookup key).bind ManifestItem.headed?).bind
        (pathIn? · name)).getD [name]) := by
  induction tables with
  | nil => exact .fallback
  | cons table later ih =>
    have lists (key : String) := @listsUnderHeader_iff manifest table key
    rw [List.findSome?_cons]
    cases headed : (manifest.items.lookup table).bind ManifestItem.headed? with
    | none =>
      have unlisted (key : String) : ¬ manifest.ListsUnderHeader table key := by
        simp [lists, headed]
      exact .later (unlisted name) (fun _ _ => unlisted facade) ih
    | some entries =>
      have listed_iff (key : String) :
          manifest.ListsUnderHeader table key ↔ (entries.lookup key).isSome = true := by
        simp [lists, headed]
      rw [Option.bind_some, pathIn?]
      by_cases listed : (entries.lookup name).isSome = true
      · rw [if_pos listed]
        exact .direct ((listed_iff name).2 listed)
      rw [if_neg listed]
      have unlisted := mt (listed_iff name).1 listed
      cases module : facadeModule? name with
      | none =>
        refine .later unlisted (fun inside isModule => ?_) ih
        rw [facadeModule?_eq_some_iff.2 isModule] at module
        cases module
      | some inside =>
        rw [Option.bind_some]
        by_cases offered : (entries.lookup facade).isSome = true
        · rw [if_pos offered]
          exact .throughFacade unlisted (facadeModule?_eq_some_iff.1 module)
            ((listed_iff facade).2 offered)
        · rw [if_neg offered]
          exact .later unlisted (fun _ _ => mt (listed_iff facade).1 offered) ih

/-! ## Reading paths -/

/-- The identifier that a text is, if it is one. -/
def identifier? (text : String) : Option String :=
  (Token.scan? text).bind Code.name?

/-- The text is an identifier. -/
def IsIdentifier (text : String) : Prop :=
  identifier? text = some text

/-- The names along the path of one name from the root of all crates, if a text is such a path. -/
def rootPath? (text : String) : Option (List String) :=
  (Token.scan? text).bind fun
    | .mark ':' :: .mark ':' :: code => (Code.name? code).map ([·])
    | _ => none

/-- The path of a crate under the dependencies of a table, read from texts. There is no result if
one of the texts is refused. -/
def readIn? (dependencies : NameTable ManifestItem) (name : String) :
    Option (Option (List String)) :=
  if (dependencies.lookup name).isSome then (rootPath? ("::" ++ name)).map some
  else
    match facadeModule? name with
    | none => some none
    | some inside =>
      if (dependencies.lookup facade).isSome then
        (rootPath? ("::" ++ facade)).bind fun path =>
          (identifier? inside).map fun segment => some (path ++ [segment])
      else
        some none

/-- The path of a crate, where some tables are still to be looked at, read from texts. -/
def readFrom? (manifest : Manifest) (name : String) : List String → Option (List String)
  | [] => rootPath? ("::" ++ name)
  | table :: later =>
    match (manifest.items.lookup table).bind ManifestItem.headed? with
    | none => readFrom? manifest name later
    | some dependencies =>
      (readIn? dependencies name).bind fun
        | some path => some path
        | none => readFrom? manifest name later

/-- The path of a crate, read from texts. -/
def readCratePath? (manifest : Manifest) (name : String) : Option (List String) :=
  readFrom? manifest name dependencyTables

/-- A colon is a mark of its own. -/
theorem front?_colon (later : List Char) : Token.front? ':' later = some (.mark, 0) := by
  have gap : Token.isGap ':' = false := by decide
  have digit : (':' : Char).isDigit = false := by decide
  have word : Text.beginsWord ':' = false := by decide
  have bracket : Token.brackets.contains ':' = false := by decide
  have mark : Token.marks.contains ':' = true := by decide
  rw [Token.front?, gap, digit, word, bracket, mark]
  rfl

/-- A colon is scanned as a mark, whatever follows. -/
theorem scanChars_colon (later : List Char) :
    Token.scanChars (':' :: later) = (Token.scanChars later).map (.mark ':' :: ·) := by
  rw [Token.scanChars.eq_def]
  dsimp only
  rw [front?_colon]
  rfl

/-- Behind a double colon, an identifier is a path. -/
theorem rootPath?_of_isIdentifier {name : String} (isIdentifier : IsIdentifier name) :
    rootPath? ("::" ++ name) = some [name] := by
  obtain ⟨code, scanned, read⟩ := Option.bind_eq_some_iff.1 isIdentifier
  have chars : ("::" ++ name).toList = ':' :: ':' :: name.toList := by
    rw [String.toList_append]
    rfl
  have whole : Token.scan? ("::" ++ name) = some (.mark ':' :: .mark ':' :: code) := by
    rw [Token.scan?, chars, scanChars_colon, scanChars_colon, ← Token.scan?, scanned]
    rfl
  rw [rootPath?, whole, Option.bind_some]
  exact congrArg (Option.map ([·])) read

/-- The facade has a name that is an identifier. -/
theorem isIdentifier_facade : IsIdentifier facade := by
  unfold IsIdentifier
  decide +kernel

section

variable {name : String} (isName : IsIdentifier name)
  (isInside : ∀ inside, IsModule name inside → IsIdentifier inside)

include isName isInside

/-- Identifiers are never refused. -/
theorem readIn?_eq (dependencies : NameTable ManifestItem) :
    readIn? dependencies name = some (pathIn? dependencies name) := by
  rw [readIn?, pathIn?]
  split
  · rw [rootPath?_of_isIdentifier isName]
    rfl
  · cases module : facadeModule? name with
    | none => rfl
    | some inside =>
      have isIdentifier := isInside inside (facadeModule?_eq_some_iff.1 module)
      dsimp only
      rw [rootPath?_of_isIdentifier isIdentifier_facade, Option.bind_some, Option.bind_some,
        isIdentifier]
      split <;> rfl

/-- The path is read as it is found, if the names in it are identifiers. -/
theorem readCratePath?_eq (manifest : Manifest) :
    manifest.readCratePath? name = some (manifest.cratePath name) := by
  rw [readCratePath?, cratePath]
  induction dependencyTables with
  | nil => exact rootPath?_of_isIdentifier isName
  | cons table later ih =>
    rw [readFrom?, List.findSome?_cons]
    cases (manifest.items.lookup table).bind ManifestItem.headed? with
    | none => exact ih
    | some dependencies =>
      dsimp only
      rw [readIn?_eq isName isInside, Option.bind_some, Option.bind_some]
      cases pathIn? dependencies name with
      | none => exact ih
      | some path => rfl

end

/-- The path of a crate can be read, and follows the rules by what the tables with headers list. It
follows the rules by what all tables list exactly if these lead through the facade just where those
do, and so it does where no table of dependencies is written between braces. -/
theorem readCratePath?_follows (manifest : Manifest) {name : String} (isName : IsIdentifier name)
    (isInside : ∀ inside, IsModule name inside → IsIdentifier inside) :
    ∃ path, manifest.readCratePath? name = some path ∧ manifest.cratePath name = path ∧
      Follows manifest.ListsUnderHeader name dependencyTables path ∧
      (Follows manifest.Lists name dependencyTables path ↔
        (UsesFacade manifest.Lists name ↔ UsesFacade manifest.ListsUnderHeader name)) ∧
      ((∀ table ∈ dependencyTables, ∀ item, manifest.items.lookup table = some item →
        item.isInline = false) → Follows manifest.Lists name dependencyTables path) := by
  have follows := follows_findSome? manifest name dependencyTables
  refine ⟨_, readCratePath?_eq isName isInside manifest, rfl, follows, follows.follows_iff,
    fun headed => follows.congr fun table among key => ?_⟩
  constructor
  · rintro ⟨item, found, -, listed⟩
    exact ⟨item, found, listed⟩
  · rintro ⟨item, found, listed⟩
    exact ⟨item, found, headed table among item found, listed⟩

/-- The module of the properties has a name that is an identifier. -/
theorem isInside_property (inside : String) (isModule : IsModule "vc_property" inside) :
    IsIdentifier inside := by
  have same : "vc_property" = "vc_" ++ "property" := rfl
  obtain rfl := (String.append_right_inj "vc_").1 (same.symm.trans isModule)
  unfold IsIdentifier
  decide +kernel

/-- A facade that is listed for development alone is the one that the path goes through. -/
theorem readCratePath?_follows_of_development :
    let manifest : Manifest := ⟨[("dependencies", .table [("serde", .value)]),
      ("dev-dependencies", .table [("vc_bean", .inlineTable [("path", .value)])])]⟩
    IsIdentifier "vc_property" ∧
      manifest.readCratePath? "vc_property" = some ["vc_bean", "property"] ∧
      Follows manifest.Lists "vc_property" dependencyTables ["vc_bean", "property"] := by
  intro manifest
  have isName : IsIdentifier "vc_property" := by
    unfold IsIdentifier
    decide +kernel
  obtain ⟨path, read, whole, -, -, headed⟩ :=
    readCratePath?_follows manifest isName isInside_property
  obtain rfl : ["vc_bean", "property"] = path := by
    rw [← whole]
    decide
  refine ⟨isName, read, headed fun table among item found => ?_⟩
  rw [dependencyTables, List.mem_cons, List.mem_singleton] at among
  rcases among with rfl | rfl
  · cases found
    rfl
  · cases found
    rfl

/-- The rules lead through the facade that is listed between braces, but the path does not. -/
theorem cratePath_of_inline_facade :
    let manifest : Manifest := ⟨[("dependencies", .inlineTable [("vc_bean", .value)])]⟩
    manifest.readCratePath? "vc_property" = some ["vc_property"] ∧
      Follows manifest.Lists "vc_property" dependencyTables ["vc_bean", "property"] ∧
      ¬ Follows manifest.Lists "vc_property" dependencyTables ["vc_property"] := by
  intro manifest
  have listed : manifest.Lists "dependencies" facade := ⟨_, rfl, List.mem_singleton_self _⟩
  have unlisted : ¬ manifest.Lists "dependencies" "vc_property" := by
    rintro ⟨item, found, among⟩
    cases found
    exact absurd (List.mem_singleton.1 among) (by decide)
  have follows : Follows manifest.Lists "vc_property" dependencyTables ["vc_bean", "property"] :=
    .throughFacade unlisted rfl listed
  exact ⟨by decide +kernel, follows, fun other => absurd (other.unique follows) (by decide)⟩

end Manifest

end PropertyGraph
